import CommandDocs.Page.Marker

/-!
# Descriptions and summaries

The description is the first paragraph of prose, joined into one line. The
summary is its first sentence, cut to a fixed length.
-/

namespace CommandDocs.Page

/-- Join the first paragraph at or after `start`, skipping blank lines before it.
Reading goes on at the line that ended the paragraph, which may be the line at
which it would have begun. -/
def readDescription (lines : List Text) (start : Nat) : Reading Text :=
  let rest := lines.drop start
  let blanks := rest.takeWhile (·.isBlank)
  let paragraph := (rest.drop blanks.length).takeWhile (!endsParagraph ·)
  ⟨Text.join " " (paragraph.map (·.trim)), start + blanks.length + paragraph.length⟩

/-- A summary shows at most this many code points of a sentence. -/
def summaryLimit : Nat := 100

/-- The mark behind a sentence that was cut. -/
def ellipsis : Text := "..."

/-- Cut a sentence that is longer than the limit and mark the cut. -/
def shorten (sentence : Text) : Text :=
  if summaryLimit < sentence.length then sentence.take summaryLimit ++ ellipsis else sentence

/-- The part of the description before its first full stop. A description that
opens with a full stop has no such part; the title stands in, and without a
title the whole description. -/
def firstSentence (description title : Text) : Text :=
  let sentence : Text := description.takeWhile (· != CodePoint.scalar '.')
  if sentence.isBlank then
    if title.isEmpty then description else title
  else sentence

/-- The one-line summary of a page; without a description it is the title. -/
def summarize (description title : Text) : Text :=
  if description.isEmpty then title else shorten (firstSentence description title)

end CommandDocs.Page
