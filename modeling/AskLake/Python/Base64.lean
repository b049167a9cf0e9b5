/-
# `AskLake.Python.Base64` — `base64.urlsafe_b64encode` without its padding

Three bytes are four symbols of six bits each; one byte at the end is two symbols, and two bytes
are three:

    a b c ⟶ a/4  (a%4)(b/16)  (b%16)(c/64)  c%64

`decode` reads them back (`decode_encode`).  Symbols that are not of the alphabet, which
`urlsafe_b64decode` skips, are refused here.
-/
import Mathlib.Data.List.Basic
import AskLake.Python.Url

namespace AskLake.Python.Base64

def alphabet : Chars := "ABCDEFGHIJKLMNOPQRSTUVWXYZabcdefghijklmnopqrstuvwxyz0123456789-_".toList

def symbol (n : Nat) : Char := alphabet.getD n 'A'

/-- `+` and `/` are read as well. -/
def symbolValue (c : Char) : Option Nat :=
  if c = '+' then some 62 else if c = '/' then some 63 else alphabet.idxOf? c

def encode : List UInt8 → Chars
  | a :: b :: c :: rest =>
      symbol (a.toNat / 4) :: symbol (a.toNat % 4 * 16 + b.toNat / 16) ::
        symbol (b.toNat % 16 * 4 + c.toNat / 64) :: symbol (c.toNat % 64) :: encode rest
  | [a, b] =>
      [symbol (a.toNat / 4), symbol (a.toNat % 4 * 16 + b.toNat / 16),
        symbol (b.toNat % 16 * 4)]
  | [a] => [symbol (a.toNat / 4), symbol (a.toNat % 4 * 16)]
  | [] => []

def bytesOf : List Nat → Option (List UInt8)
  | p :: q :: r :: s :: rest => do
      let bytes ← bytesOf rest
      some (.ofNat (p * 4 + q / 16) :: .ofNat (q % 16 * 16 + r / 4) :: .ofNat (r % 4 * 64 + s) ::
        bytes)
  | [p, q, r] => some [.ofNat (p * 4 + q / 16), .ofNat (q % 16 * 16 + r / 4)]
  | [p, q] => some [.ofNat (p * 4 + q / 16)]
  | [_] => none
  | [] => some []

def decode (text : Chars) : Option (List UInt8) := text.mapM symbolValue >>= bytesOf

theorem symbolValue_symbol : ∀ n < 64, symbolValue (symbol n) = some n := by decide +kernel

theorem ofNat_eq {a : UInt8} {n : Nat} (h : n = a.toNat) : UInt8.ofNat n = a := by
  rw [h]
  exact UInt8.ofNat_toNat

theorem mapM_cons_symbol {n : Nat} (h : n < 64) (text : Chars) :
    (symbol n :: text).mapM symbolValue = (text.mapM symbolValue).map (n :: ·) := by
  rw [List.mapM_cons, symbolValue_symbol n h]
  cases text.mapM symbolValue <;> rfl

/-- The bytes of a text are those that it was made of. -/
theorem decode_encode (bytes : List UInt8) : decode (encode bytes) = some bytes := by
  unfold decode
  induction bytes using encode.induct with
  | case1 a b c rest ih =>
      have ha := a.toNat_lt
      have hb := b.toNat_lt
      have hc := c.toNat_lt
      rw [encode, mapM_cons_symbol (by omega), mapM_cons_symbol (by omega),
        mapM_cons_symbol (by omega), mapM_cons_symbol (by omega)]
      cases hrest : (encode rest).mapM symbolValue with
      | none =>
          rw [hrest] at ih
          exact nomatch ih
      | some values =>
          rw [hrest] at ih
          have ih : bytesOf values = some rest := ih
          show bytesOf (_ :: _ :: _ :: _ :: values) = _
          rw [bytesOf, ih, ofNat_eq (show _ = a.toNat by omega), ofNat_eq (show _ = b.toNat by omega),
            ofNat_eq (show _ = c.toNat by omega)]
          rfl
  | case2 a b =>
      have ha := a.toNat_lt
      have hb := b.toNat_lt
      rw [encode, mapM_cons_symbol (by omega), mapM_cons_symbol (by omega),
        mapM_cons_symbol (by omega)]
      show bytesOf [_, _, _] = _
      rw [bytesOf, ofNat_eq (show _ = a.toNat by omega), ofNat_eq (show _ = b.toNat by omega)]
  | case3 a =>
      have ha := a.toNat_lt
      rw [encode, mapM_cons_symbol (by omega), mapM_cons_symbol (by omega)]
      show bytesOf [_, _] = _
      rw [bytesOf, ofNat_eq (show _ = a.toNat by omega)]
  | case4 => rfl

theorem symbol_isAscii : ∀ n < 64, symbol n ≠ '.' ∧ (symbol n).toNat < 128 := by decide +kernel

/-- No point is in the text, and it is ASCII. -/
theorem mem_encode {bytes : List UInt8} {c : Char} (h : c ∈ encode bytes) :
    c ≠ '.' ∧ c.toNat < 128 := by
  induction bytes using encode.induct with
  | case1 a b c' rest ih =>
      have ha := a.toNat_lt
      have hb := b.toNat_lt
      have hc := c'.toNat_lt
      rw [encode] at h
      simp only [List.mem_cons] at h
      rcases h with rfl | rfl | rfl | rfl | h
      · exact symbol_isAscii _ (by omega)
      · exact symbol_isAscii _ (by omega)
      · exact symbol_isAscii _ (by omega)
      · exact symbol_isAscii _ (by omega)
      · exact ih h
  | case2 a b =>
      have ha := a.toNat_lt
      have hb := b.toNat_lt
      rw [encode] at h
      simp only [List.mem_cons, List.not_mem_nil, or_false] at h
      rcases h with rfl | rfl | rfl
      · exact symbol_isAscii _ (by omega)
      · exact symbol_isAscii _ (by omega)
      · exact symbol_isAscii _ (by omega)
  | case3 a =>
      have ha := a.toNat_lt
      rw [encode] at h
      simp only [List.mem_cons, List.not_mem_nil, or_false] at h
      rcases h with rfl | rfl
      · exact symbol_isAscii _ (by omega)
      · exact symbol_isAscii _ (by omega)
  | case4 => exact nomatch h

/-! ## Texts -/

/-- `base64.urlsafe_b64encode(text.encode("utf-8")).decode("ascii").rstrip("=")` -/
def encodeText (text : String) : Chars := encode text.toByteArray.data.toList

/-- `base64.urlsafe_b64decode(pad_base64(text)).decode("utf-8")`; an error is none. -/
def decodeText (text : Chars) : Option String :=
  (decode text).bind fun bytes => String.fromUTF8? ⟨bytes.toArray⟩

theorem decodeText_encodeText (text : String) : decodeText (encodeText text) = some text := by
  unfold decodeText encodeText
  rw [decode_encode]
  exact dif_pos text.isValidUTF8

example : encodeText "Man" = "TWFu".toList := by decide +kernel

end AskLake.Python.Base64
