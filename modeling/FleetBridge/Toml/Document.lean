import FleetBridge.Toml.Grammar

/-!
# TOML documents

What the statements of a text say together.
-/

namespace FleetBridge
namespace Toml

/-- A document and the path of the table that assignments go to. -/
structure Document where
  path : List String
  root : Members

namespace Document

def empty : Document :=
  { path := [], root := [] }

def add (d : Document) : Statement → Option Document
  | .assignment key v =>
      (Members.inside (Members.assign v key.name true key.path) d.path d.root).map
        (fun root => { d with root })
  | .header key =>
      (Members.inside (Members.openTable key.name) key.path d.root).map
        (fun root => { path := key.path ++ [key.name], root })
  | .nextHeader key =>
      (Members.inside (Members.openNext key.name) key.path d.root).map
        (fun root => { path := key.path ++ [key.name], root })

end Document

/-- The members of a document.  A mark of the byte order at its front does not
count. -/
def Members.ofText? (s : String) : Option Members := do
  let body :=
    match s.toList with
    | '\ufeff' :: rest => rest
    | cs => cs
  let statements ← statements? (body.length + 1) body
  let document ← statements.foldlM Document.add .empty
  return document.root

end Toml
end FleetBridge
