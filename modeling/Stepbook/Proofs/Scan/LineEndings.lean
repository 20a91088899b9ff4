import Stepbook.Proofs.Scan.Files

/-!
# Files with other line endings

A file is fed line by line, in the lines that it was written with.  Which line ending it
was written with, and whether its last line is ended, makes no difference to its scan.

## Main statements

* `Scan.readLines_of_written` — the lines of a file.
* `Scan.line_endings_indistinct` — the scans of two files that differ in the line endings.
-/

namespace Stepbook.Scan

open Stepbook.Text (LineEnding OneLine Written lines_unifyNewlines_of_written)

variable {t : FileTree} {encoding : String} {path : Path} {lines : List String}

/-- The lines of a file are those that it was written with. -/
theorem readLines_of_written (hlines : ∀ line ∈ lines, OneLine line.toList)
    {text : List Char} (htext : HasText t encoding path text) {ending : LineEnding}
    (hwritten : Written ending (lines.map String.toList) text) :
    t.readLines encoding path = .ok lines := by
  refine readLines_eq_ok_iff.mpr ⟨text, htext, ?_⟩
  have hls : ∀ line ∈ lines.map String.toList, OneLine line := by
    intro line hline
    obtain ⟨s, hs, rfl⟩ := List.mem_map.mp hline
    exact hlines s hs
  rw [lines_unifyNewlines_of_written hwritten hls, List.map_map]
  simp

/-- **Line endings make no difference.**  Take a file whose text is written with some
lines, each ended in the same way.  Whatever the reader and the policy, its scan feeds
these lines, in order and numbered from one, and the scan of any other file with these
lines is the same, whatever ends them there. -/
theorem line_endings_indistinct (hlines : ∀ line ∈ lines, OneLine line.toList)
    {text : List Char} (htext : HasText t encoding path text) {ending : LineEnding}
    (hwritten : Written ending (lines.map String.toList) text) (policy : ScanPolicy)
    (r : Reader) :
    file t policy encoding r path = ofLines policy path r lines ∧
      ∀ (t' : FileTree) (encoding' : String) (text' : List Char) (ending' : LineEnding),
        HasText t' encoding' path text' → Written ending' (lines.map String.toList) text' →
        file t' policy encoding' r path = file t policy encoding r path := by
  have hfile := file_of_readLines (readLines_of_written hlines htext hwritten) policy r
  refine ⟨hfile, fun t' encoding' text' ending' htext' hwritten' => ?_⟩
  rw [hfile, file_of_readLines (readLines_of_written hlines htext' hwritten')]

/-- An empty line and a broken one: once with pairs and an open end, and once with
carriage returns in another encoding. -/
theorem pairs_and_returns_indistinct :
    let path : Path := { segments := ["a.java"] }
    let lines : List String := ["@Given(\"^a$\")", "", "broken", "void a()"]
    let pairs := "@Given(\"^a$\")\r\n\r\nbroken\r\nvoid a()"
    let returns := "@Given(\"^a$\")\r\rbroken\rvoid a()\r"
    let t : FileTree := { nodes := [(["a.java"], .file pairs.toUTF8.toList)] }
    let t' : FileTree := { nodes := [(["a.java"], .file returns.toUTF8.toList)] }
    (∀ line ∈ lines, OneLine line.toList) ∧
      HasText t "utf-8" path pairs.toList ∧ HasText t' "latin-1" path returns.toList ∧
      Written .pair (lines.map String.toList) pairs.toList ∧
      Written .carriageReturn (lines.map String.toList) returns.toList ∧
      file t .skip "utf-8" {} path = ofLines .skip path {} lines ∧
      file t' .skip "latin-1" {} path = file t .skip "utf-8" {} path := by
  intro path lines pairs returns t t'
  have hlines : ∀ line ∈ lines, OneLine line.toList := by decide +kernel
  have hutf8 : Encoding.ofName? "utf-8" = some .utf8 := by decide +kernel
  have hlatin1 : Encoding.ofName? "latin-1" = some .latin1 := by decide +kernel
  have htext : HasText t "utf-8" path pairs.toList :=
    ⟨by decide +kernel, pairs.toUTF8.toList, Encoding.utf8.codec, by decide +kernel,
      congrArg (Option.map Encoding.codec) hutf8, by decide +kernel⟩
  have htext' : HasText t' "latin-1" path returns.toList :=
    ⟨by decide +kernel, returns.toUTF8.toList, Encoding.latin1.codec, by decide +kernel,
      congrArg (Option.map Encoding.codec) hlatin1, by decide +kernel⟩
  have hpairs : Written .pair (lines.map String.toList) pairs.toList := by
    have hends : pairs.toList = "@Given(\"^a$\")".toList ++ LineEnding.pair.chars ++
        ("".toList ++ LineEnding.pair.chars ++
          ("broken".toList ++ LineEnding.pair.chars ++ "void a()".toList)) := by decide +kernel
    have hlast : "void a()".toList ≠ [] := by decide +kernel
    rw [hends]
    exact .cons _ (.cons _ (.cons _ (.last hlast)))
  have hreturns : Written .carriageReturn (lines.map String.toList) returns.toList := by
    have hends : returns.toList = "@Given(\"^a$\")".toList ++ LineEnding.carriageReturn.chars ++
        ("".toList ++ LineEnding.carriageReturn.chars ++
          ("broken".toList ++ LineEnding.carriageReturn.chars ++
            ("void a()".toList ++ LineEnding.carriageReturn.chars ++ []))) := by decide +kernel
    rw [hends]
    exact .cons _ (.cons _ (.cons _ (.cons _ .nil)))
  obtain ⟨hfile, hother⟩ := line_endings_indistinct hlines htext hpairs .skip {}
  exact ⟨hlines, htext, htext', hpairs, hreturns, hfile, hother t' _ _ _ htext' hreturns⟩

end Stepbook.Scan
