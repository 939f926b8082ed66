import Recast.Emission

set_option autoImplicit false

namespace Recast

structure Document where
  lines : List String
  deriving DecidableEq, Repr

def Document.render (d : Document) : String :=
  d.lines.foldl (fun text line => text ++ line ++ "\n") ""

theorem Text.foldl_append_lines (text : String) (lines : List String) :
    lines.foldl (fun text line => text ++ line ++ "\n") text = text ++ unlines lines := by
  induction lines generalizing text with
  | nil => simp [unlines]
  | cons line rest ih =>
    rw [List.foldl_cons, ih]
    simp [unlines, String.append_assoc]

theorem Document.render_eq_unlines (d : Document) : d.render = Text.unlines d.lines := by
  rw [render, Text.foldl_append_lines, String.empty_append]

structure Container where
  space : String
  className : String
  deriving DecidableEq, Repr

structure SupportFile where
  name : String
  document : Document

structure Writer where
  language : String
  extension : String
  assemble : Container → (imports body : List String) → Document
  support : (space : String) → List SupportFile

namespace Writer

def indent (depth : Nat) (line : String) : String :=
  String.ofList (List.replicate (4 * depth) ' ') ++ line

def block (depth : Nat) (headline : String) (inner : List String) : List String :=
  indent depth headline :: indent depth Text.openBrace :: inner ++
    [indent depth Text.closeBrace]

def usings (imports : List String) : List String :=
  if imports.isEmpty then [] else imports.map ("using " ++ · ++ ";") ++ [""]

-- Every line of the body is indented, blank ones too.
def staticClass (c : Container) (imports body : List String) : Document where
  lines := usings imports ++
    block 0 ("namespace " ++ c.space)
      (block 1 ("internal static unsafe class " ++ c.className) (body.map (indent 2)))

-- A stand-in for pointers: indexing, and offsets by addition.
def pointerStruct : List String :=
  let offset := [indent 2 "return new Pointer<T>(p.span.Slice(i));"]
  block 0 "internal ref struct Pointer<T>" (
    indent 1 "private Span<T> span;" :: "" ::
    block 1 "public Pointer(Span<T> span)" [indent 2 "this.span = span;"] ++ "" ::
    block 1 "public T this[int i]"
      [indent 2 "get => span[i];", indent 2 "set => span[i] = value;"] ++ "" ::
    indent 1 "public Span<T> Span => span;" :: "" ::
    block 1 "public static Pointer<T> operator +(Pointer<T> p, int i)" offset ++ "" ::
    block 1 "public static Pointer<T> operator +(int i, Pointer<T> p)" offset)

-- The file that holds `pointerStruct`; its blank lines stay empty.
def pointerFile (space : String) : SupportFile where
  name := "Pointer.cs"
  document := ⟨usings ["System"] ++ block 0 ("namespace " ++ space)
    (pointerStruct.map fun line => if line.isEmpty then line else indent 1 line)⟩

def csharp : Writer where
  language := "csharp"
  extension := "cs"
  assemble := staticClass
  support space := [pointerFile space]

def bare (language extension : String) : Writer where
  language
  extension
  assemble _ _ body := ⟨body⟩
  support _ := []

end Writer

def Dialect.document (d : Dialect) (w : Writer) (c : Container) (lines : List String) :
    Except ScanError Document :=
  (d.recast lines).map (w.assemble c d.imports)

end Recast
