import Recast.Dialect.Builtin
import Recast.Document

set_option autoImplicit false

namespace Recast

structure Catalog where
  entries : List Dialect := []
  filled : Bool := false

namespace Catalog

def insert (entries : List Dialect) (d : Dialect) : List Dialect :=
  entries.filter (·.name ≠ d.name) ++ [d]

def fill (c : Catalog) : Catalog :=
  if c.filled then c else ⟨Dialect.builtins.foldl insert c.entries, true⟩

def register (c : Catalog) (d : Dialect) : Catalog :=
  let c := c.fill
  { c with entries := insert c.entries d }

def dialects (c : Catalog) : Catalog × List Dialect :=
  (c.fill, c.fill.entries)

def summaries (c : Catalog) : Catalog × List Dialect.Summary :=
  (c.dialects.1, c.dialects.2.map Dialect.summary)

def byName (c : Catalog) (name : String) : Catalog × Option Dialect :=
  (c.fill, c.fill.entries.find? (·.name = name))

def byPath (c : Catalog) (path : Path) : Catalog × Option Dialect :=
  (c.fill, c.fill.entries.reverse.find? (·.appliesTo path))

end Catalog

structure Shelf where
  writers : List Writer := []
  filled : Bool := false

namespace Shelf

def register (s : Shelf) (w : Writer) : Shelf :=
  { s with writers := s.writers ++ [w] }

def fill (s : Shelf) : Shelf :=
  if s.filled then s else { s.register .csharp with filled := true }

def all (s : Shelf) : Shelf × List Writer :=
  (s.fill, s.fill.writers)

def byLanguage (s : Shelf) (language : String) : Shelf × Option Writer :=
  (s.fill, s.fill.writers.find? (·.language = language))

end Shelf

end Recast
