import Mathlib.Logic.Basic
import Mathlib.Tactic.SplitIfs

/-! # Base64

The encoding with the standard alphabet and padding, and a decoder that is not strict: it skips
what is not of the alphabet, and a group that is padded to its end closes the data. -/

namespace IotCore.Base64

/-! ## The alphabet -/

def digit (n : Nat) : Char :=
  if n < 26 then Char.ofNat (65 + n)
  else if n < 52 then Char.ofNat (71 + n)
  else if n < 62 then Char.ofNat (n - 4)
  else if n = 62 then '+'
  else '/'

def value (c : Char) : Option Nat :=
  if 'A' ≤ c ∧ c ≤ 'Z' then some (c.toNat - 65)
  else if 'a' ≤ c ∧ c ≤ 'z' then some (c.toNat - 71)
  else if c.isDigit then some (c.toNat + 4)
  else if c = '+' then some 62
  else if c = '/' then some 63
  else none

def pad : Char := '='

theorem value_digit {n : Nat} (h : n < 64) : value (digit n) = some n ∧ digit n ≠ pad := by
  have hall : ∀ m : Fin 64, value (digit m.val) = some m.val ∧ digit m.val ≠ pad := by decide
  exact hall ⟨n, h⟩

/-! ## Encoding -/

def encode : List UInt8 → List Char
  | [] => []
  | [a] => [digit (a.toNat / 4), digit (a.toNat % 4 * 16), pad, pad]
  | [a, b] =>
      [digit (a.toNat / 4), digit (a.toNat % 4 * 16 + b.toNat / 16), digit (b.toNat % 16 * 4), pad]
  | a :: b :: c :: bytes =>
      digit (a.toNat / 4) :: digit (a.toNat % 4 * 16 + b.toNat / 16) ::
        digit (b.toNat % 16 * 4 + c.toNat / 64) :: digit (c.toNat % 64) :: encode bytes

/-! ## Decoding -/

/-- How many digits of a group have been read, and the bits that no byte has used yet. -/
inductive Quad where
  | zero
  | one (left : Nat)
  | two (left : Nat)
  | three (left : Nat)
  deriving DecidableEq, Repr

/-- `pads` counts the padding since the last digit; it only counts after two digits. -/
def decodeFrom : Quad → (pads : Nat) → List Char → Option (List UInt8)
  | .zero, _, [] => some []
  | _, _, [] => none
  | quad, pads, c :: cs =>
      if c = pad then
        match quad with
        | .two _ => if 1 ≤ pads then some [] else decodeFrom quad (pads + 1) cs
        | .three _ => some []
        | _ => decodeFrom quad pads cs
      else
        match value c with
        | none => decodeFrom quad pads cs
        | some v =>
            match quad with
            | .zero => decodeFrom (.one v) 0 cs
            | .one left =>
                (decodeFrom (.two (v % 16)) 0 cs).map (UInt8.ofNat (left * 4 + v / 16) :: ·)
            | .two left =>
                (decodeFrom (.three (v % 4)) 0 cs).map (UInt8.ofNat (left * 16 + v / 4) :: ·)
            | .three left => (decodeFrom .zero 0 cs).map (UInt8.ofNat (left * 64 + v) :: ·)

def decode (text : List Char) : Option (List UInt8) := decodeFrom .zero 0 text

example : encode [77, 97] = ['T', 'W', 'E', '='] := by decide

example : decode ['T', '\n', 'W', 'E', '=', 'T', 'Q'] = some [77, 97] := by decide

/-! ## The round trip -/

section Digits

variable {n left : Nat} (pads : Nat) (cs : List Char)

theorem decodeFrom_zero (h : n < 64) :
    decodeFrom .zero pads (digit n :: cs) = decodeFrom (.one n) 0 cs := by
  simp [decodeFrom, value_digit h]

theorem decodeFrom_one (h : n < 64) :
    decodeFrom (.one left) pads (digit n :: cs) =
      (decodeFrom (.two (n % 16)) 0 cs).map (UInt8.ofNat (left * 4 + n / 16) :: ·) := by
  simp [decodeFrom, value_digit h]

theorem decodeFrom_two (h : n < 64) :
    decodeFrom (.two left) pads (digit n :: cs) =
      (decodeFrom (.three (n % 4)) 0 cs).map (UInt8.ofNat (left * 16 + n / 4) :: ·) := by
  simp [decodeFrom, value_digit h]

theorem decodeFrom_three (h : n < 64) :
    decodeFrom (.three left) pads (digit n :: cs) =
      (decodeFrom .zero 0 cs).map (UInt8.ofNat (left * 64 + n) :: ·) := by
  simp [decodeFrom, value_digit h]

end Digits

theorem ofNat_eq {a : UInt8} {n : Nat} (h : n = a.toNat) : UInt8.ofNat n = a := by
  rw [h, UInt8.ofNat_toNat]

theorem decodeFrom_encode (bytes : List UInt8) (pads : Nat) :
    decodeFrom .zero pads (encode bytes) = some bytes := by
  induction bytes using encode.induct generalizing pads with
  | case1 => rfl
  | case2 a =>
      have ha := a.toNat_lt
      rw [encode, decodeFrom_zero _ _ (by omega), decodeFrom_one _ _ (by omega)]
      have hlast : decodeFrom (.two (a.toNat % 4 * 16 % 16)) 0 [pad, pad] = some [] := rfl
      rw [hlast, Option.map_some, ofNat_eq (a := a) (by omega)]
  | case3 a b =>
      have ha := a.toNat_lt
      have hb := b.toNat_lt
      rw [encode, decodeFrom_zero _ _ (by omega), decodeFrom_one _ _ (by omega),
        decodeFrom_two _ _ (by omega)]
      have hlast : decodeFrom (.three (b.toNat % 16 * 4 % 4)) 0 [pad] = some [] := rfl
      rw [hlast, Option.map_some, Option.map_some, ofNat_eq (a := a) (by omega),
        ofNat_eq (a := b) (by omega)]
  | case4 a b c bytes ih =>
      have ha := a.toNat_lt
      have hb := b.toNat_lt
      have hc := c.toNat_lt
      rw [encode, decodeFrom_zero _ _ (by omega), decodeFrom_one _ _ (by omega),
        decodeFrom_two _ _ (by omega), decodeFrom_three _ _ (by omega), ih]
      simp only [Option.map_some]
      rw [ofNat_eq (a := a) (by omega), ofNat_eq (a := b) (by omega),
        ofNat_eq (a := c) (by omega)]

theorem decode_encode (bytes : List UInt8) : decode (encode bytes) = some bytes :=
  decodeFrom_encode bytes 0

/-- The encoded bytes are ASCII. -/
theorem encode_ascii (bytes : List UInt8) : ∀ c ∈ encode bytes, c.toNat < 128 := by
  have hdigit : ∀ n, (digit n).toNat < 128 := by
    intro n
    by_cases h : n < 64
    · have hall : ∀ m : Fin 64, (digit m.val).toNat < 128 := by decide
      exact hall ⟨n, h⟩
    · have hslash : digit n = '/' := by
        simp [digit, show ¬n < 26 by omega, show ¬n < 52 by omega, show ¬n < 62 by omega,
          show n ≠ 62 by omega]
      rw [hslash]
      decide
  have hpad : pad.toNat < 128 := by decide
  induction bytes using encode.induct with
  | case1 => simp [encode]
  | case2 a => simp [encode, hdigit, hpad]
  | case3 a b => simp [encode, hdigit, hpad]
  | case4 a b c bytes ih => simpa [encode, hdigit] using ih

end IotCore.Base64
