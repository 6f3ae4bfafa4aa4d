import FleetBridge.Proofs.Keyed
import FleetBridge.Template.Library

/-!
# What a library holds

Under an id a library holds the template of that id that was put in last.  Whatever is put
into the library of a catalog, it is the library of a longer catalog.
-/

namespace FleetBridge
namespace Template

namespace Catalog

/-- The last of the action templates of an id. -/
def action? (c : Catalog) (id : String) : Option ActionTemplate :=
  (c.actions.filter (fun t => t.id == id)).getLast?

/-- The last of the order templates of an id. -/
def order? (c : Catalog) (id : String) : Option OrderTemplate :=
  (c.orders.filter (fun t => t.id == id)).getLast?

theorem mem_of_action? {c : Catalog} {id : String} {t : ActionTemplate}
    (h : c.action? id = some t) : t ∈ c.actions ∧ t.id = id := by
  have hmem := List.mem_filter.mp (List.mem_of_getLast? h)
  exact ⟨hmem.1, beq_iff_eq.mp hmem.2⟩

end Catalog

namespace Library

theorem foldl_insertAction (ts : List ActionTemplate) (l : Library) :
    ts.foldl (fun l t => l.insertAction t) l =
      { l with actions := ts.foldl (fun m t => m.insert t.id t) l.actions } := by
  induction ts generalizing l with
  | nil => rfl
  | cons t ts ih =>
      rw [List.foldl_cons, ih]
      rfl

theorem foldl_insertOrder (ts : List OrderTemplate) (l : Library) :
    ts.foldl (fun l t => l.insertOrder t) l =
      { l with orders := ts.foldl (fun m t => m.insert t.id t) l.orders } := by
  induction ts generalizing l with
  | nil => rfl
  | cons t ts ih =>
      rw [List.foldl_cons, ih]
      rfl

theorem ofCatalog_eq (c : Catalog) :
    ofCatalog c =
      { actions := c.actions.foldl (fun m t => m.insert t.id t) .empty
        orders := c.orders.foldl (fun m t => m.insert t.id t) .empty } := by
  rw [ofCatalog, foldl_insertOrder, foldl_insertAction]
  rfl

theorem find?_actions_ofCatalog (c : Catalog) (id : String) :
    (ofCatalog c).actions.find? id = c.action? id := by
  rw [ofCatalog_eq, Keyed.find?_foldl_insert ActionTemplate.id]
  exact Option.or_none

theorem order?_ofCatalog (c : Catalog) (id : String) :
    (ofCatalog c).order? id = c.order? id := by
  rw [order?, ofCatalog_eq, Keyed.find?_foldl_insert OrderTemplate.id]
  exact Option.or_none

end Library
end Template
end FleetBridge
