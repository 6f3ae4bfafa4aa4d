import FleetBridge.Config.Environment
import FleetBridge.Config.File
import FleetBridge.Proofs.Toml.Layout

/-!
# Settings read back

Settings that are saved are loaded as they were, as long as their numbers can be written.  Those
of settings that were loaded can be: a file that holds a larger one is refused, and a variable
changes none of them.
-/

namespace FleetBridge
namespace Config

open Toml (Field Layout)

/-!
# Sections
-/

def AllFit (periods : List UInt64) : Prop :=
  ∀ n ∈ periods, n.toNat < Toml.signBit

instance (periods : List UInt64) : Decidable (AllFit periods) :=
  show Decidable (∀ n ∈ periods, n.toNat < Toml.signBit) from List.decidableBAll _ periods

/-- A section is read back from its entries.  They can be written if its numbers can, and those
of a section that was read can. -/
structure Restores {α : Type} (ofValue? : Toml.Value → Option α) (entries : α → Toml.Entries)
    (periods : α → List UInt64) : Prop where
  bare : ∀ a, ∀ e ∈ entries a, Toml.IsBare e.1
  distinct : ∀ a, ((entries a).map Prod.fst).Nodup
  ofValue?_members : ∀ a, ofValue? (.table .header (entries a).members) = some a
  writable_iff : ∀ a, (∀ e ∈ entries a, e.2.isWritable = true) ↔ AllFit (periods a)
  allFit_of_ofValue? : ∀ {v a}, v.Fits → ofValue? v = some a → AllFit (periods a)

theorem Restores.of_layout {α ρ : Type} {l : Layout ρ} {values : α → ρ}
    {ofValue? : Toml.Value → Option α} {ofValues? : ρ → Option α} {periods : α → List UInt64}
    (hl : l.Faithful) (hnames : l.WellNamed)
    (hofValue : ∀ v, ofValue? v = l.ofValue? v >>= ofValues?)
    (hvalues : ∀ a, ofValues? (values a) = some a)
    (hofValues : ∀ r, (ofValues? r).map values = some r)
    (hwritable : ∀ a, l.Writable (values a) ↔ AllFit (periods a)) :
    Restores ofValue? (fun a => l.entries (values a)) periods where
  bare a := hnames.bare
  distinct a := hnames.distinct
  ofValue?_members a := by
    rw [hofValue, Layout.ofValue?_members hl hnames, Option.bind_eq_bind, Option.bind_some, hvalues]
  writable_iff := hwritable
  allFit_of_ofValue? := by
    intro v a hv hread
    rw [hofValue] at hread
    rcases Option.bind_eq_some_iff.mp hread with ⟨r, hr, ha⟩
    have hwritten := Layout.writable_of_ofValue? hl hv hr
    have hr' := hofValues r
    rw [ha, Option.map_some, Option.some.injEq] at hr'
    rw [← hr'] at hwritten
    exact (hwritable a).mp hwritten

namespace Broker

theorem faithful_layout : layout.Faithful :=
  .field (Field.faithful_defaulted Toml.Codec.faithful_text rfl) <|
  .field (Field.faithful_defaulted Toml.Codec.faithful_uint16 (by decide)) <|
  .field (Field.faithful_defaulted Toml.Codec.faithful_text rfl) <|
  .field (Field.faithful_optional Toml.Codec.faithful_text) <|
  .field (Field.faithful_optional Toml.Codec.faithful_text) <|
  .field (Field.faithful_defaulted Toml.Codec.faithful_uint64 (by decide)) <|
  .field (Field.faithful_defaulted Toml.Codec.faithful_uint64 (by decide)) <|
  .field (Field.faithful_defaulted Toml.Codec.faithful_text rfl) <|
  .done

def periods (b : Broker) : List UInt64 :=
  [b.keepAliveSeconds, b.publishTimeoutMillis]

theorem restores : Restores ofValue? entries periods := by
  refine .of_layout faithful_layout (by decide) (fun _ => rfl) (fun _ => rfl) (fun _ => rfl) ?_
  intro b
  simp [layout, Layout.writable_field_iff, Layout.writable_done, Field.writable_defaulted_iff,
    Field.writable_optional_iff, Toml.Codec.isWritable_text, Toml.Codec.isWritable_uint16,
    Toml.Codec.isWritable_uint64_iff, AllFit, periods]

end Broker

namespace Endpoint

theorem faithful_layout : layout.Faithful :=
  .field (Field.faithful_required Toml.Codec.faithful_text) <|
  .field (Field.faithful_defaulted Toml.Codec.faithful_uint64 (by decide)) <|
  .done

def periods (e : Endpoint) : List UInt64 :=
  [e.timeoutMillis]

theorem restores : Restores ofValue? entries periods := by
  refine .of_layout faithful_layout (by decide) (fun _ => rfl) (fun _ => rfl) (fun _ => rfl) ?_
  intro e
  simp [layout, Layout.writable_field_iff, Layout.writable_done, Field.writable_required_iff,
    Field.writable_defaulted_iff, Toml.Codec.isWritable_text, Toml.Codec.isWritable_uint64_iff,
    AllFit, periods]

end Endpoint

namespace Statuses

theorem faithful_layout : layout.Faithful :=
  .field (Field.faithful_defaulted Toml.Codec.faithful_uint64 (by decide)) <|
  .field (Field.faithful_defaulted Toml.Codec.faithful_uint64 (by decide)) <|
  .field (Field.faithful_defaulted Toml.Codec.faithful_uint64 (by decide)) <|
  .done

def periods (s : Statuses) : List UInt64 :=
  [s.heartbeatSeconds, s.ttlSeconds, s.sweepSeconds]

theorem restores : Restores ofValue? entries periods := by
  refine .of_layout faithful_layout (by decide) (fun _ => rfl) (fun _ => rfl) (fun _ => rfl) ?_
  intro s
  simp [layout, Layout.writable_field_iff, Layout.writable_done, Field.writable_defaulted_iff,
    Toml.Codec.isWritable_uint64_iff, AllFit, periods]

end Statuses

namespace Rate

theorem faithful_layout : layout.Faithful :=
  .field (Field.faithful_defaulted Toml.Codec.faithful_uint64 (by decide)) <|
  .field (Field.faithful_defaulted Toml.Codec.faithful_uint64 (by decide)) <|
  .done

def periods (r : Rate) : List UInt64 :=
  [r.minMillis, r.burstMillis]

theorem restores : Restores ofValue? entries periods := by
  refine .of_layout faithful_layout (by decide) (fun _ => rfl) (fun _ => rfl) (fun _ => rfl) ?_
  intro r
  simp [layout, Layout.writable_field_iff, Layout.writable_done, Field.writable_defaulted_iff,
    Toml.Codec.isWritable_uint64_iff, AllFit, periods]

end Rate

/-!
# Whole files
-/

theorem faithful_layout : layout.Faithful :=
  .field (Field.faithful_defaulted (Toml.Codec.faithful_word (fun k => by cases k <;> rfl)) rfl) <|
  .field (Field.faithful_optional Toml.Codec.faithful_text) <|
  .field (Field.faithful_optional Toml.Codec.faithful_text) <|
  .field (Field.faithful_defaulted Toml.Codec.faithful_text rfl) <|
  .field (Field.faithful_defaulted Toml.Codec.faithful_uint64 (by decide)) <|
  .done

theorem wellNamed_layout : layout.WellNamed := by
  decide

def periods (c : Config) : List UInt64 :=
  c.pendingTtlSeconds :: (c.broker.periods ++ c.http.periods ++ c.stream.periods ++
    c.statuses.periods ++ c.rate.periods)

def general (c : Config) :
    Transport.Kind × Option String × Option String × String × UInt64 × Unit :=
  (c.preferred, c.databasePath, c.templatesPath, c.fallbackManufacturer, c.pendingTtlSeconds, ())

theorem entries_page (c : Config) : c.page.entries = layout.entries c.general :=
  rfl

def sectionNames : List String :=
  ["mqtt", "http", "stream", "status_cache", "rate_limit"]

theorem forall_sections (P : Toml.Entries → Prop) (c : Config) (hbroker : P c.broker.entries)
    (hhttp : P c.http.entries) (hstream : P c.stream.entries) (hstatuses : P c.statuses.entries)
    (hrate : P c.rate.entries) : ∀ part ∈ c.page.sections, P part.2 := by
  simp only [page, List.forall_mem_cons]
  exact ⟨hbroker, hhttp, hstream, hstatuses, hrate, nofun⟩

theorem wellNamed_page (c : Config) : c.page.WellNamed where
  bare := by
    rw [entries_page]
    exact wellNamed_layout.bare
  distinct := by
    have hnames : (layout.names ++ sectionNames).Nodup := by decide
    rw [entries_page]
    exact ((Layout.names_entries layout c.general).append_right sectionNames).nodup hnames
  bareParts := by
    have hnames : ∀ name ∈ sectionNames, Toml.IsBare name := by decide
    have hentries := c.forall_sections (fun es => ∀ e ∈ es, Toml.IsBare e.1)
      (Broker.restores.bare _) (Endpoint.restores.bare _) (Endpoint.restores.bare _)
      (Statuses.restores.bare _) (Rate.restores.bare _)
    intro part hpart
    have hmem : part.1 ∈ sectionNames := List.mem_map_of_mem hpart
    exact ⟨hnames part.1 hmem, hentries part hpart⟩
  distinctParts :=
    c.forall_sections (fun es => (es.map Prod.fst).Nodup) (Broker.restores.distinct _)
      (Endpoint.restores.distinct _) (Endpoint.restores.distinct _) (Statuses.restores.distinct _)
      (Rate.restores.distinct _)

theorem allFit_append {before behind : List UInt64} :
    AllFit (before ++ behind) ↔ AllFit before ∧ AllFit behind :=
  List.forall_mem_append

theorem allFit_periods_iff (c : Config) :
    AllFit c.periods ↔ c.pendingTtlSeconds.toNat < Toml.signBit ∧ AllFit c.broker.periods ∧
      AllFit c.http.periods ∧ AllFit c.stream.periods ∧ AllFit c.statuses.periods ∧
      AllFit c.rate.periods := by
  rw [periods, AllFit, List.forall_mem_cons]
  simp only [← AllFit.eq_1, allFit_append, and_assoc]

theorem writable_general_iff (c : Config) :
    layout.Writable c.general ↔ c.pendingTtlSeconds.toNat < Toml.signBit := by
  simp [layout, general, Layout.writable_field_iff, Layout.writable_done,
    Field.writable_defaulted_iff, Field.writable_optional_iff, Toml.Codec.isWritable_text,
    Toml.Codec.isWritable_word, Toml.Codec.isWritable_uint64_iff]

theorem isWritable_page_iff (c : Config) : c.page.isWritable = true ↔ AllFit c.periods := by
  rw [allFit_periods_iff, ← writable_general_iff, Toml.Page.isWritable, Bool.and_eq_true,
    List.all_eq_true]
  refine and_congr_right' ?_
  simp [page, ← Broker.restores.writable_iff, ← Endpoint.restores.writable_iff,
    ← Statuses.restores.writable_iff, ← Rate.restores.writable_iff]

theorem sectionOf?_members {α : Type} {ofValue? : Toml.Value → Option α}
    {entries : α → Toml.Entries} {numbers : α → List UInt64} (c : Config) {name : String} {a : α}
    (h : Restores ofValue? entries numbers) (hpart : (name, entries a) ∈ c.page.sections)
    (default : α) : sectionOf? ofValue? name default c.page.members = some a := by
  have hfound := Toml.Page.lookup_members_section c.wellNamed_page hpart
  rw [sectionOf?, hfound]
  exact h.ofValue?_members a

theorem ofMembers?_members (c : Config) : ofMembers? c.page.members = some c := by
  have hlookup : ∀ name ∈ layout.names,
      c.page.members.lookup name = (layout.entries c.general).members.lookup name := by
    have hnames : ∀ name ∈ layout.names, name ∉ sectionNames := by decide
    exact fun name hname => Toml.Page.lookup_members (hnames name hname)
  have hgeneral : layout.ofMembers? c.page.members = some c.general :=
    Layout.ofMembers?_of_lookup faithful_layout wellNamed_layout.1 hlookup
  have hbroker (b : Broker) :
      sectionOf? Broker.ofValue? "mqtt" b c.page.members = some c.broker :=
    c.sectionOf?_members Broker.restores (by simp [page]) b
  have hhttp (e : Endpoint) :
      sectionOf? Endpoint.ofValue? "http" e c.page.members = some c.http :=
    c.sectionOf?_members Endpoint.restores (by simp [page]) e
  have hstream (e : Endpoint) :
      sectionOf? Endpoint.ofValue? "stream" e c.page.members = some c.stream :=
    c.sectionOf?_members Endpoint.restores (by simp [page]) e
  have hstatuses (s : Statuses) :
      sectionOf? Statuses.ofValue? "status_cache" s c.page.members = some c.statuses :=
    c.sectionOf?_members Statuses.restores (by simp [page]) s
  have hrate (r : Rate) :
      sectionOf? Rate.ofValue? "rate_limit" r c.page.members = some c.rate :=
    c.sectionOf?_members Rate.restores (by simp [page]) r
  rw [ofMembers?, hgeneral]
  dsimp only [Option.bind_eq_bind, Option.bind_some, general]
  rw [hbroker, hhttp, hstream, hstatuses, hrate]
  rfl

/-!
# Settings that were loaded
-/

theorem allFit_of_sectionOf? {α : Type} {ofValue? : Toml.Value → Option α}
    {entries : α → Toml.Entries} {numbers : α → List UInt64} {ms : Toml.Members} {name : String}
    {default a : α} (h : Restores ofValue? entries numbers) (hms : ms.Fits)
    (hdefault : AllFit (numbers default)) (hread : sectionOf? ofValue? name default ms = some a) :
    AllFit (numbers a) := by
  rw [sectionOf?] at hread
  split at hread
  · rename_i hlookup
    exact h.allFit_of_ofValue? (Layout.fits_of_lookup hms hlookup) hread
  · cases hread
    exact hdefault

theorem allFit_of_ofMembers? {ms : Toml.Members} {c : Config} (hms : ms.Fits)
    (h : ofMembers? ms = some c) : AllFit c.periods := by
  rcases Option.bind_eq_some_iff.mp h with ⟨values, hgeneral, h⟩
  rcases Option.bind_eq_some_iff.mp h with ⟨broker, hbroker, h⟩
  rcases Option.bind_eq_some_iff.mp h with ⟨http, hhttp, h⟩
  rcases Option.bind_eq_some_iff.mp h with ⟨stream, hstream, h⟩
  rcases Option.bind_eq_some_iff.mp h with ⟨statuses, hstatuses, h⟩
  rcases Option.bind_eq_some_iff.mp h with ⟨rate, hrate, h⟩
  cases h
  have hwritable := Layout.writable_of_ofMembers? faithful_layout hms hgeneral
  rw [allFit_periods_iff]
  exact ⟨(writable_general_iff _).mp hwritable,
    allFit_of_sectionOf? Broker.restores hms (by decide) hbroker,
    allFit_of_sectionOf? Endpoint.restores hms (by decide) hhttp,
    allFit_of_sectionOf? Endpoint.restores hms (by decide) hstream,
    allFit_of_sectionOf? Statuses.restores hms (by decide) hstatuses,
    allFit_of_sectionOf? Rate.restores hms (by decide) hrate⟩

theorem periods_withEnvironment (env : Environment) (c : Config) :
    (c.withEnvironment env).periods = c.periods :=
  rfl

/-!
# Saving and loading
-/

/-- Settings are saved, are loaded as they were, and are saved as the same text again. -/
structure Survives (c : Config) (text : String) : Prop where
  render? : c.render? = some text
  ofText? : ofText? text = some c
  render?_again : ∀ loaded, Config.ofText? text = some loaded → loaded.render? = some text

theorem survives_of_render? {c : Config} {text : String} (h : c.render? = some text) :
    c.Survives text := by
  have hread : ofText? text = some c := by
    rw [ofText?, Toml.Page.ofText?_render c.wellNamed_page h, Option.bind_some]
    exact c.ofMembers?_members
  refine { render? := h, ofText? := hread, render?_again := ?_ }
  intro loaded hloaded
  rw [hread] at hloaded
  cases hloaded
  exact h

theorem exists_render? {c : Config} (h : AllFit c.periods) : ∃ text, c.render? = some text := by
  rw [render?, Toml.Page.render?, if_pos (c.isWritable_page_iff.mpr h)]
  exact ⟨_, rfl⟩

/-- Settings whose numbers fit are loaded as they were saved, whatever their texts.  Those that
were loaded from a file fit, under any environment. -/
theorem survives_saving :
    (∀ c : Config, AllFit c.periods → ∃ text, c.Survives text) ∧
      ∀ file loaded env, ofText? file = some loaded →
        ∃ text, (loaded.withEnvironment env).Survives text := by
  have hsurvives : ∀ c : Config, AllFit c.periods → ∃ text, c.Survives text := by
    intro c hfit
    rcases exists_render? hfit with ⟨text, htext⟩
    exact ⟨text, survives_of_render? htext⟩
  refine ⟨hsurvives, ?_⟩
  intro file loaded env hloaded
  rcases Option.bind_eq_some_iff.mp hloaded with ⟨ms, hms, hread⟩
  have hfit := allFit_of_ofMembers? (Toml.fits_of_ofText? hms) hread
  rw [← periods_withEnvironment env] at hfit
  exact hsurvives _ hfit

/-- Settings with texts that need escapes, and some that are empty. -/
def awkward : Config :=
  { databasePath := some ""
    fallbackManufacturer := "a\"\"\"b'''c\n\r\t\\\x01"
    broker := { username := some "", password := some "'\n\"", root := "é\u2028" } }

def shortFile : String :=
  "default_transport = \"http\"\n\n[mqtt]\nusername = ''\nport = 0x75c\n"

def ofShortFile : Config :=
  { preferred := .http, broker := { username := some "", port := 1884 } }

theorem survives_saving_awkward :
    (AllFit awkward.periods ∧ ∃ text, awkward.Survives text) ∧
      ofText? shortFile = some ofShortFile ∧
      ∃ text, (ofShortFile.withEnvironment [("FLEETLINK_DATABASE_PATH", "")]).Survives text := by
  have hfit : AllFit awkward.periods := by decide
  have hread : ofText? shortFile = some ofShortFile := by decide +kernel
  exact ⟨⟨hfit, survives_saving.1 awkward hfit⟩, hread,
    survives_saving.2 shortFile ofShortFile _ hread⟩

end Config
end FleetBridge
