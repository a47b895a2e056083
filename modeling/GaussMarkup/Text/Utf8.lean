/-!
# UTF-8

The size of a text in bytes, and texts read from bytes. Any malformed sequence refuses the whole.
-/

namespace GaussMarkup

def byteSize (s : List Char) : Nat :=
  s.foldr (fun c n => c.utf8Size + n) 0

@[simp] theorem byteSize_nil : byteSize [] = 0 := rfl

@[simp] theorem byteSize_cons (c : Char) (s : List Char) :
    byteSize (c :: s) = c.utf8Size + byteSize s := rfl

@[simp] theorem byteSize_append (s t : List Char) :
    byteSize (s ++ t) = byteSize s + byteSize t := by
  induction s with
  | nil => simp
  | cons c s ih => simp [ih, Nat.add_assoc]

namespace Utf8

/-- How many bytes follow the first byte of a character, with the bounds of the one directly
behind it and the bits that the first byte gives. -/
def lead? (b : Nat) : Option (Nat × Nat × Nat × Nat) :=
  if b < 0x80 then some (0, 0, 0, b)
  else if 0xC2 ≤ b ∧ b ≤ 0xDF then some (1, 0x80, 0xBF, b - 0xC0)
  else if b = 0xE0 then some (2, 0xA0, 0xBF, 0)
  else if b = 0xED then some (2, 0x80, 0x9F, 0xD)
  else if 0xE1 ≤ b ∧ b ≤ 0xEF then some (2, 0x80, 0xBF, b - 0xE0)
  else if b = 0xF0 then some (3, 0x90, 0xBF, 0)
  else if 0xF1 ≤ b ∧ b ≤ 0xF3 then some (3, 0x80, 0xBF, b - 0xF0)
  else if b = 0xF4 then some (3, 0x80, 0x8F, 4)
  else none

/-- Reads `n` further bytes of a character, the next one between `lo` and `hi`. The rest is what
stands behind the bytes that fit, with the code point when all did. -/
def tail : (n lo hi code : Nat) → List UInt8 → Option Nat × List UInt8
  | 0, _, _, code, bytes => (some code, bytes)
  | _ + 1, _, _, _, [] => (none, [])
  | n + 1, lo, hi, code, b :: bytes =>
    if lo ≤ b.toNat ∧ b.toNat ≤ hi then tail n 0x80 0xBF (code * 64 + (b.toNat - 0x80)) bytes
    else (none, b :: bytes)

theorem length_tail_le : ∀ (n lo hi code : Nat) (bytes : List UInt8),
    (tail n lo hi code bytes).2.length ≤ bytes.length
  | 0, _, _, _, _ => by simp [tail]
  | _ + 1, _, _, _, [] => by simp [tail]
  | n + 1, lo, hi, code, b :: bytes => by
      have ih := length_tail_le n 0x80 0xBF (code * 64 + (b.toNat - 0x80)) bytes
      simp only [tail]
      split
      · exact Nat.le_succ_of_le ih
      · simp

/-- The first character of a byte sequence, or nothing where it is malformed, and the bytes behind
what was read. -/
def next (b : UInt8) (bytes : List UInt8) : Option Char × List UInt8 :=
  match lead? b.toNat with
  | none => (none, bytes)
  | some (n, lo, hi, code) =>
    let (found, rest) := tail n lo hi code bytes
    (found.map Char.ofNat, rest)

theorem length_next_le (b : UInt8) (bytes : List UInt8) :
    (next b bytes).2.length ≤ bytes.length := by
  unfold next
  split
  · simp
  · exact length_tail_le ..

/-- The text of a byte sequence, if all of it is well formed. -/
def decode? : List UInt8 → Option (List Char)
  | [] => some []
  | b :: bytes =>
    match (next b bytes).1 with
    | none => none
    | some c => (decode? (next b bytes).2).map (c :: ·)
termination_by bytes => bytes.length
decreasing_by exact Nat.lt_succ_of_le (length_next_le b bytes)

end Utf8

end GaussMarkup
