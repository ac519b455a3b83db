/-!
# Texts in bytes

`decodeLossy` reads bytes as UTF-8 text. Where the bytes are no text, the longest beginning of a
character is replaced by one replacement character, and a byte that begins none by one of its own.
-/

namespace TableClasses.Text

def replacement : Char := Char.ofNat 0xFFFD

/-- What the first byte of a character of several bytes says: how many follow, and within which
bounds the first of these lies. -/
structure Lead where
  following : Nat
  low : Nat
  high : Nat
  deriving DecidableEq, Repr

def leadOf? (b : Nat) : Option Lead :=
  if b < 0xC2 then none
  else if b < 0xE0 then some ⟨1, 0x80, 0xBF⟩
  else if b = 0xE0 then some ⟨2, 0xA0, 0xBF⟩
  else if b = 0xED then some ⟨2, 0x80, 0x9F⟩
  else if b < 0xF0 then some ⟨2, 0x80, 0xBF⟩
  else if b = 0xF0 then some ⟨3, 0x90, 0xBF⟩
  else if b < 0xF4 then some ⟨3, 0x80, 0xBF⟩
  else if b = 0xF4 then some ⟨3, 0x80, 0x8F⟩
  else none

/-- The bits that a first byte gives to its character. -/
def leadBits (b following : Nat) : Nat := b % Nat.pow 2 (6 - following)

/-- Reads the bytes that follow a first one: the character, or the replacement if one of them is
missing, and the rest. -/
def follow (bits : Nat) : Lead → List UInt8 → Char × List UInt8
  | ⟨0, _, _⟩, s => (Char.ofNat bits, s)
  | ⟨_ + 1, _, _⟩, [] => (replacement, [])
  | ⟨n + 1, low, high⟩, b :: s =>
    if low ≤ b.toNat ∧ b.toNat ≤ high then
      follow (64 * bits + b.toNat % 64) ⟨n, 0x80, 0xBF⟩ s
    else (replacement, b :: s)

theorem length_follow (bits : Nat) (l : Lead) (s : List UInt8) :
    (follow bits l s).2.length ≤ s.length := by
  fun_induction follow bits l s with
  | case1 => simp
  | case2 => simp
  | case3 bits n low high b s _ ih => simp only [List.length_cons]; omega
  | case4 => simp

/-- The text of bytes, whatever they are. -/
def decodeLossy : List UInt8 → List Char
  | [] => []
  | b :: s =>
    if b.toNat < 0x80 then Char.ofNat b.toNat :: decodeLossy s
    else
      match leadOf? b.toNat with
      | none => replacement :: decodeLossy s
      | some l =>
        let next := follow (leadBits b.toNat l.following) l s
        next.1 :: decodeLossy next.2
termination_by s => s.length
decreasing_by
  all_goals simp only [List.length_cons]
  · omega
  · omega
  · have := length_follow (leadBits b.toNat l.following) l s
    omega

/-- The text that bytes are, if they are one. -/
def decode? (bytes : ByteArray) : Option String := String.fromUTF8? bytes

/-- The bytes without the mark that may stand at the front of a text. -/
def dropMark (s : List UInt8) : List UInt8 :=
  match s with
  | 0xEF :: 0xBB :: 0xBF :: rest => rest
  | _ => s

end TableClasses.Text
