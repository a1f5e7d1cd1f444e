/-
Reserved names — words between double underscores.

Every table of names and every description has some names of its own, beside those that it
lists.  They are known, but name nothing that can be asked for.
-/

namespace MeshlessGas

/-- The reserved name of a word. -/
def reservedName (word : String) : String := "__" ++ word ++ "__"

/-- Words for collections that belong to a table itself. -/
def collectionWords : List String := ["builtins", "dict", "annotations"]

/-- Words for other things that belong to a table itself. -/
def ownWords : List String :=
  ["name", "doc", "file", "spec", "package", "loader", "cached", "class", "init", "new", "repr",
   "str", "eq", "ne", "lt", "le", "gt", "ge", "hash", "format", "dir", "sizeof", "reduce",
   "reduce_ex", "getattribute", "setattr", "delattr", "getstate", "init_subclass",
   "subclasshook"]

/-- Whether a name is that of a collection that belongs to a table itself. -/
def isOwnCollection (name : String) : Bool := name ∈ collectionWords.map reservedName

/-- Whether a name belongs to a table itself. -/
def isOwnName (name : String) : Bool :=
  isOwnCollection name ∨ name ∈ ownWords.map reservedName

end MeshlessGas
