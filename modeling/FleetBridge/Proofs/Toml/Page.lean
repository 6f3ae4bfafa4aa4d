import FleetBridge.Proofs.Lookup
import FleetBridge.Proofs.Toml.Scalar
import Mathlib.Data.List.Nodup

/-!
# Pages read back

Each line of a page is a statement, and the statements of a page put its entries and sections
one behind the other.
-/

namespace FleetBridge
namespace Toml

variable {name : String} {e : String × Scalar} {es : Entries} {a : Scalar} {v : Value}
variable {s : List Char} {ms before : Members}

/-!
# Lines
-/

def IsBare (name : String) : Prop :=
  name ≠ "" ∧ ∀ c ∈ name.toList, isBareKey c = true

-- The characters of the name are gone through, not all characters there are.
instance (name : String) : Decidable (IsBare name) :=
  @instDecidableAnd (name ≠ "") _ _
    (List.decidableBAll (fun c => isBareKey c = true) name.toList)

theorem skipSpace_cons {c : Char} (hc : isSpace c = false) : skipSpace (c :: s) = c :: s :=
  List.dropWhile_cons_of_neg (Bool.eq_false_iff.mp hc)

theorem exists_name_eq_cons (hname : IsBare name) :
    ∃ c t, name.toList = c :: t ∧ isBareKey c = true := by
  have hnil : name.toList ≠ [] := fun h => hname.1 (String.toList_eq_nil_iff.mp h)
  rcases List.exists_cons_of_ne_nil hnil with ⟨c, t, hcons⟩
  exact ⟨c, t, hcons, hname.2 c (hcons ▸ List.mem_cons_self)⟩

theorem ne_of_isBareKey {c d : Char} (hc : isBareKey c = true) (hd : isBareKey d = false) :
    c ≠ d := by
  rintro rfl
  rw [hc] at hd
  cases hd

theorem isSpace_of_isBareKey {c : Char} (hc : isBareKey c = true) : isSpace c = false := by
  have hblank := ne_of_isBareKey hc (show isBareKey ' ' = false from rfl)
  have htab := ne_of_isBareKey hc (show isBareKey '\t' = false from rfl)
  simp [isSpace, hblank, htab]

theorem key?_bare (hname : IsBare name) {c : Char} (hc : isBareKey c = false)
    (hdot : ∀ t, skipSpace (c :: s) ≠ '.' :: t) :
    key? (name.toList ++ c :: s) = some ({ path := [], name }, skipSpace (c :: s)) := by
  have htake : (name.toList ++ c :: s).takeWhile isBareKey = name.toList := by
    rw [List.takeWhile_append_of_pos hname.2, List.takeWhile_cons_of_neg (Bool.eq_false_iff.mp hc),
      List.append_nil]
  have hdrop : (name.toList ++ c :: s).dropWhile isBareKey = c :: s := by
    rw [List.dropWhile_append_of_pos hname.2, List.dropWhile_cons_of_neg (Bool.eq_false_iff.mp hc)]
  have hspace : skipSpace (name.toList ++ c :: s) = name.toList ++ c :: s := by
    rcases exists_name_eq_cons hname with ⟨d, t, hcons, hd⟩
    rw [hcons, List.cons_append, skipSpace_cons (isSpace_of_isBareKey hd)]
  have hpart : keyPart? (name.toList ++ c :: s) = some (name.toList, c :: s) := by
    rcases exists_name_eq_cons hname with ⟨d, t, hcons, _⟩
    rw [keyPart?, htake, hdrop, hcons]
  have hparts : keyParts? (78 + 1) (name.toList ++ c :: s) =
      some ([name], skipSpace (c :: s)) := by
    rw [keyParts?, hspace, hpart]
    dsimp only [Option.bind_eq_bind, Option.bind_some]
    split
    · rename_i t heq
      exact absurd heq (hdot t)
    · rw [String.ofList_toList]
      rfl
  rw [key?]
  exact hparts ▸ rfl

theorem exists_written_eq_cons (a : Scalar) :
    ∃ c t, a.written = c :: t ∧ isSpace c = false := by
  cases a with
  | text s =>
      rcases exists_writtenText_eq_cons s.toList with ⟨t, hcons⟩
      refine ⟨_, t, hcons, ?_⟩
      rw [Quoting.mark]
      split
      · rfl
      · rfl
  | integer i =>
      rcases exists_signed_eq_cons (decide (i < 0)) i.natAbs with ⟨c, t, hcons⟩
      have hc : c ∈ signed (decide (i < 0)) i.natAbs := hcons ▸ List.mem_cons_self
      refine ⟨c, t, by rw [Scalar.written, toList_intText, hcons], ?_⟩
      rcases mem_signed hc with rfl | hdigit
      · rfl
      · have hword := isWordChar_of_isDigit hdigit
        simp only [isWordChar, Bool.not_eq_true', Bool.or_eq_false_iff] at hword
        exact hword.1.1.1.1.1.1

theorem statement?_entryLine (hname : IsBare e.1) (hvalue : e.2.isWritable = true) :
    statement? (Page.entryLine e ++ s) =
      some (.assignment { path := [], name := e.1 } e.2.value, s) := by
  rcases exists_name_eq_cons hname with ⟨c, t, hcons, hc⟩
  rcases exists_written_eq_cons e.2 with ⟨d, u, hwritten, hd⟩
  have hkey : key? (e.1.toList ++ ' ' :: '=' :: ' ' :: (e.2.written ++ '\n' :: s)) =
      some ({ path := [], name := e.1 }, '=' :: ' ' :: (e.2.written ++ '\n' :: s)) :=
    key?_bare hname rfl nofun
  have hskip : skipSpace (' ' :: (e.2.written ++ '\n' :: s)) = e.2.written ++ '\n' :: s := by
    rw [hwritten, List.cons_append]
    exact skipSpace_cons hd
  have hline : Page.entryLine e ++ s =
      e.1.toList ++ ' ' :: '=' :: ' ' :: (e.2.written ++ '\n' :: s) := by
    simp [Page.entryLine]
  have hbracket : ∀ t', e.1.toList ++ ' ' :: '=' :: ' ' :: (e.2.written ++ '\n' :: s) ≠
      '[' :: t' := by
    intro t' heq
    rw [hcons] at heq
    exact ne_of_isBareKey hc rfl (List.cons.inj heq).1
  rw [hline, statement?]
  · rw [hkey]
    have hequal : ['='].isPrefixOf? ('=' :: ' ' :: (e.2.written ++ '\n' :: s)) =
        some (' ' :: (e.2.written ++ '\n' :: s)) := rfl
    dsimp only [Option.bind_eq_bind, Option.bind_some]
    rw [hequal, Option.bind_some, hskip, value?_written hvalue]
    rfl
  · intro t' heq
    exact hbracket _ heq
  · exact hbracket

theorem statement?_header (hname : IsBare name) :
    statement? ('[' :: (name.toList ++ ']' :: '\n' :: s)) =
      some (.header { path := [], name }, s) := by
  have hkey : key? (name.toList ++ ']' :: '\n' :: s) =
      some ({ path := [], name }, ']' :: '\n' :: s) :=
    key?_bare hname rfl nofun
  rw [statement?]
  · rw [hkey]
    rfl
  · intro t heq
    rcases exists_name_eq_cons hname with ⟨c, u, hcons, hc⟩
    rw [hcons] at heq
    exact ne_of_isBareKey hc rfl (List.cons.inj heq).1

/-!
# The statements of a page
-/

/-- A text has these statements, whatever fuel beyond its length they are read with. -/
def States (s : List Char) (statements : List Statement) : Prop :=
  ∀ fuel, s.length < fuel → statements? fuel s = some statements

theorem states_nil : States [] [] := by
  intro fuel hfuel
  cases fuel with
  | zero => cases hfuel
  | succ fuel => rfl

theorem States.blank_line {statements : List Statement} (h : States s statements) :
    States ('\n' :: s) statements := by
  intro fuel hfuel
  cases fuel with
  | zero => cases hfuel
  | succ fuel => exact h fuel (Nat.lt_of_succ_lt_succ hfuel)

theorem States.cons {statement : Statement} {statements : List Statement} {c : Char}
    {t : List Char} (h : States s statements) (hc : isBareKey c = true ∨ c = '[')
    (hread : statement? (c :: t) = some (statement, s)) (hlength : s.length < (c :: t).length) :
    States (c :: t) (statement :: statements) := by
  have hspace : skipSpace (c :: t) = c :: t := by
    rcases hc with hbare | rfl
    · exact skipSpace_cons (isSpace_of_isBareKey hbare)
    · rfl
  have hne : ∀ d, isBareKey d = false → d ≠ '[' → c ≠ d := by
    rintro d hd hbracket rfl
    rcases hc with hbare | hc
    · exact ne_of_isBareKey hbare hd rfl
    · exact hbracket hc
  intro fuel hfuel
  cases fuel with
  | zero => cases hfuel
  | succ fuel =>
      have hrest := h fuel (Nat.lt_of_lt_of_le hlength (Nat.le_of_lt_succ hfuel))
      rw [statements?, hspace]
      split
      · rename_i heq
        cases heq
      · rename_i heq
        exact absurd (List.cons.inj heq).1 (hne '#' rfl (by decide))
      · rename_i heq
        exact absurd (List.cons.inj heq).1 (hne '\n' rfl (by decide))
      · rename_i heq
        exact absurd (List.cons.inj heq).1 (hne '\r' rfl (by decide))
      · rw [hread]
        dsimp only [Option.bind_eq_bind, Option.bind_some]
        rw [hrest]
        rfl

/-- Entries that can be written and need no quotes around their names. -/
def Legible (es : Entries) : Prop :=
  ∀ e ∈ es, IsBare e.1 ∧ e.2.isWritable = true

def entryStatement (e : String × Scalar) : Statement :=
  .assignment { path := [], name := e.1 } e.2.value

theorem States.entryLines {statements : List Statement} (h : States s statements)
    (hes : Legible es) :
    States (es.flatMap Page.entryLine ++ s) (es.map entryStatement ++ statements) := by
  induction es with
  | nil => exact h
  | cons e es ih =>
      rw [Legible, List.forall_mem_cons] at hes
      have hrest := ih hes.2
      have hread := statement?_entryLine (s := es.flatMap Page.entryLine ++ s) hes.1.1 hes.1.2
      rcases exists_name_eq_cons hes.1.1 with ⟨c, t, hcons, hc⟩
      rw [List.flatMap_cons, List.append_assoc]
      have hline : Page.entryLine e = c :: (t ++ [' ', '=', ' '] ++ e.2.written ++ ['\n']) := by
        rw [Page.entryLine, hcons]
        rfl
      rw [hline, List.cons_append] at hread ⊢
      refine hrest.cons (Or.inl hc) hread ?_
      simp only [List.length_cons, List.length_append]
      omega

def sectionStatements (part : String × Entries) : List Statement :=
  .header { path := [], name := part.1 } :: part.2.map entryStatement

theorem States.sectionLines {statements : List Statement} (h : States s statements)
    {part : String × Entries} (hname : IsBare part.1) (hes : Legible part.2) :
    States (Page.sectionLines part ++ s) (sectionStatements part ++ statements) := by
  have hentries := h.entryLines hes
  have hlines : Page.sectionLines part ++ s = '\n' :: '[' :: (part.1.toList ++ ']' :: '\n' ::
      (part.2.flatMap Page.entryLine ++ s)) := by
    simp [Page.sectionLines]
  rw [hlines, sectionStatements, List.cons_append]
  refine (hentries.cons (Or.inr rfl) (statement?_header hname) ?_).blank_line
  simp only [List.length_cons, List.length_append]
  omega

theorem States.sections {sections : List (String × Entries)}
    (hsections : ∀ part ∈ sections, IsBare part.1 ∧ Legible part.2) :
    States (sections.flatMap Page.sectionLines) (sections.flatMap sectionStatements) := by
  induction sections with
  | nil => exact states_nil
  | cons part sections ih =>
      rw [List.forall_mem_cons] at hsections
      rw [List.flatMap_cons, List.flatMap_cons]
      exact (ih hsections.2).sectionLines hsections.1.1 hsections.1.2

/-!
# The tables of a page
-/

theorem Members.alter_new {change : Option Value → Option Value}
    (hname : name ∉ ms.map Prod.fst) :
    Members.alter name change ms = (change none).map (fun v => ms ++ [(name, v)]) := by
  induction ms with
  | nil => rfl
  | cons m ms ih =>
      rw [List.map_cons, List.mem_cons, not_or] at hname
      have hne : ¬ (m.1 == name) = true := fun h => hname.1 (beq_iff_eq.mp h).symm
      rw [Members.alter, if_neg hne, ih hname.2, Option.map_map]
      rfl

theorem Members.alter_last {change : Option Value → Option Value}
    (hname : name ∉ before.map Prod.fst) :
    Members.alter name change (before ++ [(name, v)]) =
      (change (some v)).map (fun v => before ++ [(name, v)]) := by
  induction before with
  | nil =>
      rw [List.nil_append, Members.alter, if_pos (beq_self_eq_true name)]
      rfl
  | cons m before ih =>
      rw [List.map_cons, List.mem_cons, not_or] at hname
      have hne : ¬ (m.1 == name) = true := fun h => hname.1 (beq_iff_eq.mp h).symm
      rw [List.cons_append, Members.alter, if_neg hne, ih hname.2, Option.map_map]
      rfl

def Entries.members (es : Entries) : Members :=
  es.map (fun e => (e.1, e.2.value))

structure Opens (build : Members → Document) : Prop where
  add : ∀ {ms e}, e.1 ∉ ms.map Prod.fst →
    (build ms).add (entryStatement e) = some (build (ms ++ [(e.1, e.2.value)]))

theorem opens_root : Opens (fun ms => { path := [], root := ms }) := by
  constructor
  intro ms e hname
  rw [entryStatement, Document.add, Members.inside, Members.assign, if_pos rfl,
    Members.alter_new hname]
  rfl

theorem opens_header (hname : name ∉ before.map Prod.fst) :
    Opens (fun ms => { path := [name], root := before ++ [(name, .table .header ms)] }) := by
  constructor
  intro ms e hentry
  have hassign : Members.assign e.2.value e.1 true [] ms = some (ms ++ [(e.1, e.2.value)]) := by
    rw [Members.assign, if_pos rfl, Members.alter_new hentry]
    rfl
  rw [entryStatement, Document.add, Members.inside, Members.alter_last hname]
  dsimp only
  rw [Members.inside, hassign]
  rfl

theorem not_mem_of_nodup {α : Type} {first later : List α} {x : α}
    (h : (first ++ [x] ++ later).Nodup) : x ∉ first := by
  intro hmem
  have hdisjoint := (List.nodup_append.mp (List.nodup_append.mp h).1).2.2
  exact hdisjoint x hmem x (List.mem_singleton_self x) rfl

theorem Opens.foldlM {build : Members → Document} (h : Opens build)
    (hnames : (ms.map Prod.fst ++ es.map Prod.fst).Nodup) :
    (es.map entryStatement).foldlM Document.add (build ms) =
      some (build (ms ++ Entries.members es)) := by
  induction es generalizing ms with
  | nil =>
      rw [Entries.members, List.map_nil, List.map_nil, List.append_nil]
      rfl
  | cons e es ih =>
      rw [List.map_cons, List.append_cons] at hnames
      have hname : e.1 ∉ ms.map Prod.fst := not_mem_of_nodup hnames
      have hlater : ((ms ++ [(e.1, e.2.value)]).map Prod.fst ++ es.map Prod.fst).Nodup := by
        rw [List.map_append]
        exact hnames
      rw [List.map_cons, List.foldlM_cons, h.add hname]
      dsimp only [Option.bind_eq_bind, Option.bind_some]
      rw [ih hlater, Entries.members, List.append_assoc]
      rfl

theorem Opens.foldlM_empty {build : Members → Document} (h : Opens build)
    (hnames : (es.map Prod.fst).Nodup) :
    (es.map entryStatement).foldlM Document.add (build []) = some (build (Entries.members es)) :=
  h.foldlM hnames

def sectionMembers (sections : List (String × Entries)) : Members :=
  sections.map (fun part => (part.1, .table .header (Entries.members part.2)))

theorem foldlM_sectionStatements (path : List String) {sections : List (String × Entries)}
    (hnames : (ms.map Prod.fst ++ sections.map Prod.fst).Nodup)
    (hentries : ∀ part ∈ sections, (part.2.map Prod.fst).Nodup) :
    ((sections.flatMap sectionStatements).foldlM Document.add { path, root := ms }).map
      Document.root = some (ms ++ sectionMembers sections) := by
  induction sections generalizing path ms with
  | nil =>
      rw [sectionMembers, List.map_nil, List.append_nil]
      rfl
  | cons part sections ih =>
      rw [List.map_cons, List.append_cons] at hnames
      rw [List.forall_mem_cons] at hentries
      have hname : part.1 ∉ ms.map Prod.fst := not_mem_of_nodup hnames
      have hheader : Document.add { path, root := ms } (.header { path := [], name := part.1 }) =
          some { path := [part.1], root := ms ++ [(part.1, Value.table .header [])] } := by
        rw [Document.add, Members.inside, Members.openTable, Members.alter_new hname]
        rfl
      have hfold := (opens_header hname).foldlM_empty hentries.1
      have hlater : ((ms ++ [(part.1, Value.table .header (Entries.members part.2))]).map Prod.fst
          ++ sections.map Prod.fst).Nodup := by
        rw [List.map_append]
        exact hnames
      rw [List.flatMap_cons, sectionStatements, List.cons_append, List.foldlM_cons, hheader]
      dsimp only [Option.bind_eq_bind, Option.bind_some]
      rw [List.foldlM_append, hfold]
      dsimp only [Option.bind_eq_bind, Option.bind_some]
      rw [ih [part.1] hlater hentries.2, List.append_assoc]
      rfl

namespace Page

variable {p : Page} {text : String}

/-- No name needs quotes, and none is used twice in one place. -/
structure WellNamed (p : Page) : Prop where
  bare : ∀ e ∈ p.entries, IsBare e.1
  distinct : (p.entries.map Prod.fst ++ p.sections.map Prod.fst).Nodup
  bareParts : ∀ part ∈ p.sections, IsBare part.1 ∧ ∀ e ∈ part.2, IsBare e.1
  distinctParts : ∀ part ∈ p.sections, (part.2.map Prod.fst).Nodup

def members (p : Page) : Members :=
  p.entries.members ++ sectionMembers p.sections

def lines (p : Page) : List Char :=
  p.entries.flatMap entryLine ++ p.sections.flatMap sectionLines

theorem states_lines (hnames : p.WellNamed) (hwritable : p.isWritable = true) :
    States p.lines (p.entries.map entryStatement ++ p.sections.flatMap sectionStatements) := by
  rw [isWritable, Bool.and_eq_true, List.all_eq_true, List.all_eq_true] at hwritable
  have hentries : Legible p.entries := fun e he => ⟨hnames.bare e he, hwritable.1 e he⟩
  have hsections : ∀ part ∈ p.sections, IsBare part.1 ∧ Legible part.2 := by
    intro part hpart
    have hall := List.all_eq_true.mp (hwritable.2 part hpart)
    have hbare := hnames.bareParts part hpart
    exact ⟨hbare.1, fun e he => ⟨hbare.2 e he, hall e he⟩⟩
  exact (States.sections hsections).entryLines hentries

theorem lines_ne_cons_mark (hnames : p.WellNamed) (t : List Char) : p.lines ≠ '\ufeff' :: t := by
  intro heq
  rw [lines] at heq
  cases hentries : p.entries with
  | cons e es =>
      rcases exists_name_eq_cons (hnames.bare e (hentries ▸ List.mem_cons_self)) with
        ⟨c, u, hcons, hc⟩
      rw [hentries, List.flatMap_cons, entryLine, hcons] at heq
      exact ne_of_isBareKey hc rfl (List.cons.inj heq).1
  | nil =>
      rw [hentries] at heq
      cases hsections : p.sections with
      | nil =>
          rw [hsections] at heq
          cases heq
      | cons part sections =>
          rw [hsections] at heq
          exact absurd (List.cons.inj heq).1 (by decide)

/-- A page is read as its entries and, behind them, its sections. -/
theorem ofText?_render (hnames : p.WellNamed) (h : p.render? = some text) :
    Members.ofText? text = some p.members := by
  rw [render?] at h
  split at h
  · rename_i hwritable
    have htext : text.toList = p.lines := by
      rw [← Option.some.inj h, String.toList_ofList]
      rfl
    have hread := states_lines hnames hwritable (p.lines.length + 1) (Nat.lt_succ_self _)
    have hentries := opens_root.foldlM_empty (List.nodup_append.mp hnames.distinct).1
    have hdistinct : (p.entries.members.map Prod.fst ++ p.sections.map Prod.fst).Nodup := by
      rw [Entries.members, List.map_map]
      exact hnames.distinct
    have hroot := foldlM_sectionStatements [] hdistinct hnames.distinctParts
    rw [Option.map_eq_bind] at hroot
    rw [Members.ofText?]
    split
    · rename_i t heq
      rw [htext] at heq
      exact absurd heq (lines_ne_cons_mark hnames t)
    · rw [htext, hread]
      dsimp only [Option.bind_eq_bind, Option.bind_some]
      rw [List.foldlM_append, Document.empty, hentries]
      exact hroot
  · cases h

theorem names_sectionMembers (sections : List (String × Entries)) :
    (sectionMembers sections).map Prod.fst = sections.map Prod.fst := by
  rw [sectionMembers, List.map_map]
  rfl

theorem lookup_members (hname : name ∉ p.sections.map Prod.fst) :
    p.members.lookup name = p.entries.members.lookup name := by
  rw [← names_sectionMembers] at hname
  rw [members, List.lookup_append, lookup_eq_none hname, Option.or_none]

theorem lookup_members_section (hnames : p.WellNamed) {part : String × Entries}
    (hpart : part ∈ p.sections) :
    p.members.lookup part.1 = some (.table .header part.2.members) := by
  rcases List.nodup_append.mp hnames.distinct with ⟨_, hnodup, hdisjoint⟩
  have hentries : part.1 ∉ p.entries.members.map Prod.fst := by
    rw [Entries.members, List.map_map]
    exact fun hmem => hdisjoint part.1 hmem part.1 (List.mem_map_of_mem hpart) rfl
  rw [← names_sectionMembers] at hnodup
  have hfound := lookup_of_mem hnodup (List.mem_map_of_mem hpart)
  rw [members, List.lookup_append, lookup_eq_none hentries, Option.none_or]
  exact hfound

end Page
end Toml
end FleetBridge
