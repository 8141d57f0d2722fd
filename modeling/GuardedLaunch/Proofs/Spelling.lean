import GuardedLaunch.Proofs.Decoding
import Mathlib.Algebra.GroupWithZero.Nat
import Mathlib.Data.List.Basic
import Mathlib.Tactic.SplitIfs

/-!
# What a byte string spells

The decoder reads every text from its bytes. This is the way back: where it finds nothing
ill-formed, the byte string is the bytes of the text that was read. A byte string that spells
no text is therefore shown with U+FFFD somewhere, and what is shown has other bytes than it.

- `Utf8.Partial.Began`: an unfinished character, and the bytes that have been read of it.
- `Utf8.Reading`: where the decoder stands between two bytes, and what it has not given out
  yet. A step keeps this up (`Utf8.Reading.step`), and so does a whole run
  (`Utf8.Reading.scan`).
- `decode?_eq_some_iff`: a byte string is decoded to the text that it spells.
- `replacement_mem_decodeLossy`: a byte string that spells nothing.
-/

namespace GuardedLaunch

namespace Utf8

/-! ## Unfinished characters -/

/-- The bytes that end a character: one for each of the last groups of six bits of its
number. -/
def continuation : Nat → Nat → Bytes
  | 0, _ => []
  | due + 1, v => UInt8.ofNat (v / 64 ^ due % 64 + 0x80) :: continuation due v

/-- An unfinished character, and the bytes that have been read of it: whatever number it still
comes to, if the next six bits are in the interval, is written with these bytes in front. -/
structure Partial.Began (p : Partial) (front : Bytes) : Prop where
  low : 0x80 ≤ p.low.toNat
  high : p.high.toNat ≤ 0xBF
  spells : ∀ v, v / 64 ^ (p.more + 1) = p.bits →
    p.low.toNat ≤ v / 64 ^ p.more % 64 + 0x80 → v / 64 ^ p.more % 64 + 0x80 ≤ p.high.toNat →
      String.utf8EncodeChar (Char.ofNat v) = front ++ continuation (p.more + 1) v

section

variable {p : Partial} {b : UInt8}

theorem val_ofNat {v : Nat} (h : v < 0xD800 ∨ 0xDFFF < v ∧ v < 0x110000) :
    (Char.ofNat v).val.toNat = v := by
  have hvalid : v.isValidChar := h
  rw [Char.ofNat, dif_pos hvalid]
  rfl

/-- A byte by its number. -/
theorem eq_ofNat {n : Nat} (h : b.toNat = n) : UInt8.ofNat n = b := by
  rw [← h, UInt8.ofNat_toNat]

theorem utf8EncodeChar_ascii (ascii : b.toNat < 0x80) :
    String.utf8EncodeChar (Char.ofNat b.toNat) = [b] := by
  rw [String.utf8EncodeChar, val_ofNat (by omega), if_pos (by omega), UInt8.ofNat_toNat]

section

variable {n : Nat} {low high : UInt8} (hlow : 0x80 ≤ low.toNat) (hhigh : high.toNat ≤ 0xBF)

include hlow hhigh

/-- The first of two bytes. -/
theorem began_two (first : b.toNat = n + 0xC0) (least : 2 ≤ n) (most : n < 32) :
    Partial.Began { bits := n, more := 0, low, high } [b] := by
  refine ⟨hlow, hhigh, fun v hbits _ _ => ?_⟩
  dsimp only at hbits ⊢
  rw [String.utf8EncodeChar, val_ofNat (by omega), if_neg (by omega), if_pos (by omega),
    eq_ofNat (b := b) (by omega)]
  simp [continuation]

/-- The first of three bytes. It rules out for the second what would be written in two bytes
and what is no character. -/
theorem began_three (first : b.toNat = n + 0xE0) (most : n < 16)
    (overlong : n = 0 → 0xA0 ≤ low.toNat) (surrogate : n = 0xD → high.toNat ≤ 0x9F) :
    Partial.Began { bits := n, more := 1, low, high } [b] := by
  refine ⟨hlow, hhigh, fun v hbits hleast hmost => ?_⟩
  dsimp only at hbits hleast hmost ⊢
  rw [String.utf8EncodeChar, val_ofNat (by omega), if_neg (by omega), if_neg (by omega),
    if_pos (by omega), eq_ofNat (b := b) (by omega)]
  simp [continuation]

/-- The first of four bytes. It rules out for the second what would be written in three bytes
and what is past the last character. -/
theorem began_four (first : b.toNat = n + 0xF0) (most : n < 5)
    (overlong : n = 0 → 0x90 ≤ low.toNat) (beyond : n = 4 → high.toNat ≤ 0x8F) :
    Partial.Began { bits := n, more := 2, low, high } [b] := by
  refine ⟨hlow, hhigh, fun v hbits hleast hmost => ?_⟩
  dsimp only at hbits hleast hmost ⊢
  rw [String.utf8EncodeChar, val_ofNat (by omega), if_neg (by omega), if_neg (by omega),
    if_neg (by omega), eq_ofNat (b := b) (by omega)]
  simp [continuation]

end

/-- A byte in the interval is the next one of the character. -/
theorem Partial.Began.spells_push {front : Bytes} (began : p.Began front)
    (low : p.low.toNat ≤ b.toNat) (high : b.toNat ≤ p.high.toNat) {v : Nat}
    (bits : v / 64 ^ p.more = p.bits * 64 + (b.toNat - 0x80)) :
    String.utf8EncodeChar (Char.ofNat v) = front ++ b :: continuation p.more v := by
  have hlow := began.low
  have hhigh := began.high
  have hfront : v / 64 ^ (p.more + 1) = p.bits := by
    rw [Nat.pow_succ, ← Nat.div_div_eq_div_mul]
    omega
  have hspells := began.spells v hfront (by omega) (by omega)
  rwa [continuation, eq_ofNat (b := b) (by omega)] at hspells

end

/-! ## Where the decoder stands -/

/-- The bytes of the characters that have been recognised. -/
def spelled (pieces : List (Option Char)) : Bytes :=
  pieces.flatMap fun piece => piece.elim [] String.utf8EncodeChar

theorem spelled_append (front rest : List (Option Char)) :
    spelled (front ++ rest) = spelled front ++ spelled rest :=
  List.flatMap_append

/-- The decoder stands between two characters, or behind some bytes of one. -/
inductive Reading : Option Partial → Bytes → Prop where
  | between : Reading none []
  | within {p : Partial} {front : Bytes} (began : p.Began front) : Reading (some p) front

/-- What has been read with one more byte is what was read before and this byte, if the byte
makes nothing ill-formed. -/
def Reads (progress : Progress) (bytes : Bytes) : Prop :=
  none ∉ progress.recognised →
    ∃ front, Reading progress.pending front ∧ spelled progress.recognised ++ front = bytes

theorem reads_unfinished {p : Partial} {front : Bytes} (began : p.Began front) :
    Reads ⟨[], some p⟩ front :=
  fun _ => ⟨front, .within began, rfl⟩

theorem reads_illFormed (pending : Option Partial) (rest : List (Option Char)) (bytes : Bytes) :
    Reads ⟨none :: rest, pending⟩ bytes :=
  fun wellFormed => absurd List.mem_cons_self wellFormed

theorem reads_character {c : Char} {bytes : Bytes} (h : String.utf8EncodeChar c = bytes) :
    Reads ⟨[some c], none⟩ bytes :=
  fun _ => ⟨[], .between, by rw [← h]; simp [spelled]⟩

/-- The first byte of a character. -/
theorem reads_lead (b : UInt8) : Reads (lead b) [b] := by
  have hlow : 0x80 ≤ (0x80 : UInt8).toNat := by decide
  have hhigh : (0xBF : UInt8).toNat ≤ 0xBF := by decide
  rw [lead_eq]
  split_ifs with ascii stray two e0 ed three f0 four f4
  · exact reads_character (utf8EncodeChar_ascii ascii)
  · exact reads_illFormed _ _ _
  · exact reads_unfinished (began_two hlow hhigh (by omega) (by omega) (by omega))
  · exact reads_unfinished
      (began_three (by decide) hhigh e0 (by decide) (fun _ => by decide) nofun)
  · exact reads_unfinished
      (began_three hlow (by decide) ed (by decide) nofun fun _ => by decide)
  · exact reads_unfinished
      (began_three hlow hhigh (by omega) (by omega) (fun _ => by omega) fun _ => by omega)
  · exact reads_unfinished
      (began_four (by decide) hhigh f0 (by decide) (fun _ => by decide) nofun)
  · exact reads_unfinished
      (began_four hlow hhigh (by omega) (by omega) (fun _ => by omega) fun _ => by omega)
  · exact reads_unfinished
      (began_four hlow (by decide) f4 (by decide) nofun fun _ => by decide)
  · exact reads_illFormed _ _ _

/-- A byte in the interval continues a character or ends it. -/
theorem Partial.Began.push {p : Partial} {b : UInt8} {front : Bytes} (began : p.Began front)
    (low : p.low.toNat ≤ b.toNat) (high : b.toNat ≤ p.high.toNat) :
    Reads (p.push b) (front ++ [b]) := by
  rw [push_eq p (Nat.le_trans began.low low)]
  cases due : p.more with
  | zero =>
    refine reads_character ?_
    have hspells := began.spells_push low high (v := p.bits * 64 + (b.toNat - 0x80))
      (by rw [due, Nat.pow_zero, Nat.div_one])
    rwa [due, continuation] at hspells
  | succ more =>
    have hlow : 0x80 ≤ (0x80 : UInt8).toNat := by decide
    have hhigh : (0xBF : UInt8).toNat ≤ 0xBF := by decide
    refine reads_unfinished ⟨hlow, hhigh, fun v hbits _ _ => ?_⟩
    have hspells := began.spells_push low high (v := v) (by rw [due]; exact hbits)
    rwa [due, List.append_cons] at hspells

/-- One byte of the decoder. -/
theorem Reading.step {pending : Option Partial} {front : Bytes} (reading : Reading pending front)
    (b : UInt8) : Reads (step pending b) (front ++ [b]) := by
  cases reading with
  | between => exact reads_lead b
  | @within p _ began =>
    rw [Utf8.step]
    split
    · next interval =>
      exact began.push (UInt8.le_iff_toNat_le.mp interval.1) (UInt8.le_iff_toNat_le.mp interval.2)
    · exact reads_illFormed _ _ _

theorem scan_cons (pending : Option Partial) (b : UInt8) (rest : Bytes) :
    scan pending (b :: rest)
      = (step pending b).recognised ++ scan (step pending b).pending rest := by
  cases pending with
  | none => rfl
  | some p => rfl

/-- A run of the decoder that finds nothing ill-formed gives out the bytes that it was given,
those that it had not given out before included. -/
theorem Reading.scan {bytes : Bytes} : ∀ {pending : Option Partial} {front : Bytes},
    Reading pending front → none ∉ scan pending bytes →
      spelled (scan pending bytes) = front ++ bytes := by
  induction bytes with
  | nil =>
    intro pending front reading wellFormed
    cases reading with
    | between => rfl
    | within began => exact absurd List.mem_cons_self wellFormed
  | cons b rest ih =>
    intro pending front reading wellFormed
    rw [scan_cons, List.mem_append, not_or] at wellFormed
    obtain ⟨next, hnext, hbytes⟩ := reading.step b wellFormed.1
    rw [scan_cons, spelled_append, ih hnext wellFormed.2, ← List.append_assoc, hbytes,
      List.append_assoc, List.singleton_append]

end Utf8

/-! ## The way back -/

/-- A byte string without anything ill-formed is the bytes of the text that it is shown as. -/
theorem utf8_decodeLossy {bytes : Bytes} (wellFormed : none ∉ Utf8.pieces bytes) :
    utf8 (decodeLossy bytes) = bytes := by
  have hpiece : ∀ piece ∈ Utf8.pieces bytes,
      String.utf8EncodeChar (piece.getD Utf8.replacement)
        = piece.elim [] String.utf8EncodeChar := by
    intro piece hmem
    cases piece with
    | none => exact absurd hmem wellFormed
    | some c => rfl
  calc utf8 (decodeLossy bytes)
      = (Utf8.pieces bytes).flatMap
          fun piece => String.utf8EncodeChar (piece.getD Utf8.replacement) := by
        rw [utf8, decodeLossy, String.toList_ofList, List.flatMap_map]
    _ = Utf8.spelled (Utf8.pieces bytes) := List.flatMap_congr hpiece
    _ = bytes := Utf8.Reading.between.scan wellFormed

/-- The byte strings in which there is nothing ill-formed are those that spell a text. -/
theorem none_not_mem_pieces_iff {bytes : Bytes} :
    none ∉ Utf8.pieces bytes ↔ ∃ text, utf8 text = bytes := by
  constructor
  · intro wellFormed
    exact ⟨decodeLossy bytes, utf8_decodeLossy wellFormed⟩
  · rintro ⟨text, rfl⟩ hmem
    rw [Utf8.pieces_utf8] at hmem
    obtain ⟨c, -, hc⟩ := List.mem_map.mp hmem
    cases hc

/-- A byte string is decoded to the text that it spells. -/
theorem decode?_eq_some_iff {bytes : Bytes} {text : String} :
    decode? bytes = some text ↔ utf8 text = bytes := by
  constructor
  · intro h
    rw [decode?] at h
    split at h
    · cases h
    · next wellFormed =>
      rw [← Option.some.inj h, utf8_decodeLossy wellFormed]
  · rintro rfl
    rw [decode?, if_neg (none_not_mem_pieces_iff.mpr ⟨text, rfl⟩), decodeLossy_utf8]

theorem utf8_injective : Function.Injective utf8 :=
  Function.LeftInverse.injective decodeLossy_utf8

/-- A byte string that spells no text is shown with at least one U+FFFD. -/
theorem replacement_mem_decodeLossy {bytes : Bytes} (illFormed : ∀ text, utf8 text ≠ bytes) :
    Utf8.replacement ∈ (decodeLossy bytes).toList := by
  have hmem : none ∈ Utf8.pieces bytes := by
    by_contra wellFormed
    exact illFormed _ (utf8_decodeLossy wellFormed)
  rw [decodeLossy, String.toList_ofList]
  exact List.mem_map.mpr ⟨none, hmem, rfl⟩

end GuardedLaunch
