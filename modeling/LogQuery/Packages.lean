/-
What the program has from elsewhere.

YAML files, pages and styles are read by packages, and values are shown by
the interpreter. What is said about how a list or the settings are loaded and
how a run ends holds for whatever these do, within the laws below; so what a
run breaks off at is told by what they report. The readers of this library
are the ones that run.
-/
import LogQuery.Html.Node
import LogQuery.Style
import LogQuery.Yaml.File

namespace LogQuery

open Text Yaml

/-- The packages, as far as they are called, and what is relied on. -/
class Packages where
  /-- The document in an open file of these bytes. The file is read in pieces,
  so a fault in what comes first may be met before bytes that are no text. -/
  document : ByteArray → Except DocumentError Document
  /-- An open file can be read to its end. -/
  document_ne_file (bytes : ByteArray) (e : FileError) :
    document bytes ≠ .error (.file e)
  /-- A document is given when all of the file has been read as text. -/
  text_of_document {bytes : ByteArray} {d : Document}
    (h : document bytes = .ok d) : ∃ s, decodeFile bytes = .ok s
  /-- A text is not refused for its encoding. -/
  defect_of_encoding {bytes : ByteArray} {d : Utf8Defect}
    (h : document bytes = .error (.encoding d)) :
    ∃ d', decodeFile bytes = .error d'
  /-- The nodes of a page. -/
  nodes : String → Except Html.Refusal (List Html.Node)
  /-- The style that a text names or defines. -/
  style : String → Except Style.Fault Style
  /-- How deep a value may be nested that is shown. -/
  deepest : Nat

namespace Packages

/-- The readers of this library. -/
instance standard : Packages where
  document := Document.ofBytes
  document_ne_file bytes e := by
    unfold Document.ofBytes
    cases decodeFile bytes with
    | error d => nofun
    | ok s =>
      dsimp only [Except.mapError, bind, Except.bind]
      cases Document.ofText s with
      | error fault => cases fault <;> nofun
      | ok d => nofun
  text_of_document {bytes d} h := by
    unfold Document.ofBytes at h
    cases hs : decodeFile bytes with
    | error d => rw [hs] at h; cases h
    | ok s => exact ⟨s, rfl⟩
  defect_of_encoding {bytes d} h := by
    unfold Document.ofBytes at h
    cases hs : decodeFile bytes with
    | error d => exact ⟨d, rfl⟩
    | ok s =>
      rw [hs] at h
      dsimp only [Except.mapError, bind, Except.bind] at h
      cases hd : Document.ofText s with
      | error fault => rw [hd] at h; cases fault <;> cases h
      | ok d => rw [hd] at h; cases h
  nodes := Html.Node.ofText
  style := Style.ofText
  deepest := 980

end Packages

/-- The document in the file at a path. -/
def Yaml.readDocument [Packages] (t : FileTree) (path : String) :
    Except DocumentError Document := do
  Packages.document (← (t.read path).mapError .file)

end LogQuery
