import Gherkin.Text.Lines
import Gherkin.Text.Utf8

/-!
# Transcripts

A transcript collects in memory what is written. It takes texts, lines and bytes. Bytes must be
UTF-8 in themselves: those of one write are never completed by the next, and a write that is refused
leaves the transcript as it is.
-/

namespace Gherkin

/-- What has been written so far. -/
structure Transcript where
  text : Text := []
  deriving DecidableEq, Repr

namespace Transcript

/-- The transcript with a text written to it. -/
def write (t : Transcript) (more : Text) : Transcript := { text := t.text ++ more }

/-- The transcript with a line written to it. -/
def writeLine (t : Transcript) (line : Text) : Transcript := t.write (Text.unlines [line])

/-- The transcript with bytes written to it, if they are UTF-8. -/
def writeBytes (t : Transcript) (bytes : List Nat) : Except Utf8Fault Transcript :=
  (Utf8.decode bytes).map t.write

@[simp] theorem text_write (t : Transcript) (more : Text) :
    (t.write more).text = t.text ++ more := rfl

@[simp] theorem text_writeLine (t : Transcript) (line : Text) :
    (t.writeLine line).text = t.text ++ (line ++ ['\n']) := by
  simp [writeLine, Text.unlines]

end Transcript

end Gherkin
