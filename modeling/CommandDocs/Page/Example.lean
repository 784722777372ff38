import CommandDocs.Page.Marker

/-!
# Examples

The example is the fenced block of code behind the example label. It counts
only when the label, an opening fence and a closing fence are all there.
-/

namespace CommandDocs.Page

/-- The lines up to the first one that satisfies `p`, and the lines behind it;
`none` when no line does. -/
def splitAtFirst (p : Text → Bool) (lines : List Text) : Option (List Text × List Text) :=
  match lines.dropWhile (!p ·) with
  | [] => none
  | _ :: behind => some (lines.takeWhile (!p ·), behind)

/-- Find the example at or after `start`. Reading goes on behind the closing
fence, or at `start` when one of the three marks is missing. -/
def findExample (lines : List Text) (start : Nat) : Reading Text :=
  let found := do
    let (before, behindLabel) ← splitAtFirst hasExampleLabel (lines.drop start)
    let (between, behindFence) ← splitAtFirst isFence behindLabel
    let (code, _) ← splitAtFirst isFence behindFence
    some (code, before.length + 1 + between.length + 1 + code.length + 1)
  match found with
  | none => ⟨[], start⟩
  | some (code, count) => ⟨Text.trim (Text.join "\n" code), start + count⟩

end CommandDocs.Page
