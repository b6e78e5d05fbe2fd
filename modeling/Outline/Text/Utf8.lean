import Outline.Count

namespace Outline.Text

def bytesOf (text : String) : List UInt8 := text.toUTF8.data.toList

def textOf? (bytes : List UInt8) : Option String := String.fromUTF8? ⟨bytes.toArray⟩

structure Continuation where
  low : UInt8
  high : UInt8
  count : Nat

def continuation? (first : UInt8) : Option Continuation :=
  if first < 0xC2 then none
  else if first < 0xE0 then some ⟨0x80, 0xBF, 1⟩
  else if first = 0xE0 then some ⟨0xA0, 0xBF, 2⟩
  else if first = 0xED then some ⟨0x80, 0x9F, 2⟩
  else if first < 0xF0 then some ⟨0x80, 0xBF, 2⟩
  else if first = 0xF0 then some ⟨0x90, 0xBF, 3⟩
  else if first < 0xF4 then some ⟨0x80, 0xBF, 3⟩
  else if first = 0xF4 then some ⟨0x80, 0x8F, 3⟩
  else none

def Continuation.present (c : Continuation) : List UInt8 → Nat
  | [] => 0
  | second :: rest =>
    if c.low ≤ second && second ≤ c.high then
      1 + ((rest.take (c.count - 1)).takeWhile fun b => 0x80 ≤ b && b ≤ 0xBF).length
    else 0

def codePoint (first : UInt8) (following : List UInt8) : Nat :=
  following.foldl (fun n b => 64 * n + b.toNat % 64) (first.toNat % wordCount (6 - following.length))

/-- The character at the front of bytes, and how many bytes behind the first belong to it. The
longest beginning of a character that is cut off is replaced as a whole. -/
def leadingChar (first : UInt8) (rest : List UInt8) : Char × Nat :=
  if first < 0x80 then (Char.ofNat first.toNat, 0)
  else match continuation? first with
    | none => ('\ufffd', 0)
    | some c =>
      let count := c.present rest
      if count = c.count then (Char.ofNat (codePoint first (rest.take count)), count)
      else ('\ufffd', count)

def decodeLossy : List UInt8 → List Char
  | [] => []
  | first :: rest =>
    (leadingChar first rest).1 :: decodeLossy (rest.drop (leadingChar first rest).2)
termination_by bytes => bytes.length
decreasing_by simp only [List.length_drop, List.length_cons]; omega

def shownBytes (bytes : List UInt8) : String :=
  (textOf? bytes).getD (String.ofList (decodeLossy bytes))

end Outline.Text
