import PerlAudit.Proofs.Text.Seams

/-!
Bytes below 0x80 in what is decoded. Such a byte is read as one character whatever stands around it,
and no other bytes, damaged or not, are read as that character. So a character below U+0080 tells
where its byte is, and the bytes before it and behind it are decoded apart.
-/

namespace PerlAudit.Text

section Pieces

/-- What is read of a character so far can only become one beyond ASCII, with so many further bytes
to come. -/
def Ample : (further payload : Nat) → Prop
  | 0, payload => 0x80 ≤ payload ∧ payload.isValidChar
  | n + 1, payload => ∀ bits < 64, Ample n (payload * 64 + bits)

theorem lead_ample {b second : UInt8} {lead : Lead} (leading : lead? b = some lead)
    (within : (lead.low ≤ second && second ≤ lead.high) = true) :
    Ample lead.further (lead.payload * 64 + (second.toNat - 0x80)) := by
  obtain ⟨low, high⟩ : lead.low.toNat ≤ second.toNat ∧ second.toNat ≤ lead.high.toNat := by
    simpa [UInt8.le_iff_toNat_le] using within
  unfold lead? at leading
  simp only [Bool.and_eq_true, decide_eq_true_eq, beq_iff_eq, UInt8.le_iff_toNat_le,
    ← UInt8.toNat_inj] at leading
  -- One goal for each kind of first byte, with its range of second bytes.
  repeat' split at leading
  all_goals cases leading
  all_goals
    simp only [Ample, Nat.isValidChar, UInt8.reduceToNat] at *
    omega

theorem toNat_ofNat {n : Nat} (valid : n.isValidChar) : (Char.ofNat n).toNat = n := by
  rw [Char.ofNat, dif_pos valid]
  rfl

theorem continuations_ample {further payload : Nat} (ample : Ample further payload)
    (read rest : Bytes) : 0x80 ≤ (continuations further payload read rest).1.shown.toNat := by
  induction further generalizing payload read rest with
  | zero =>
    rw [continuations, Piece.shown, toNat_ofNat ample.2]
    exact ample.1
  | succ n ih =>
    cases rest with
    | nil => exact (by decide : 0x80 ≤ '\ufffd'.toNat)
    | cons b rest =>
      rw [continuations]
      split
      · rename_i goesOn
        have bits : b.toNat - 0x80 < 64 := by
          have := b.toNat_lt
          simp only [isContinuation, Bool.and_eq_true, decide_eq_true_eq,
            UInt8.le_iff_toNat_le, UInt8.reduceToNat] at goesOn
          omega
        exact ih (ample _ bits) _ rest
      · exact (by decide : 0x80 ≤ '\ufffd'.toNat)

/-- A byte from 0x80 on is read as part of a character beyond ASCII, or as damage. -/
theorem piece_beyond {b : UInt8} (high : ¬b < 0x80) (rest : Bytes) :
    0x80 ≤ (piece b rest).1.shown.toNat := by
  have flaw : 0x80 ≤ '\ufffd'.toNat := by decide
  unfold piece
  rw [if_neg high]
  split
  · exact flaw
  · exact flaw
  · rename_i lead second more leading
    split
    · rename_i within
      exact continuations_ample (lead_ample leading within) _ more
    · exact flaw

theorem toNat_ofNat_ascii {b : UInt8} (ascii : b < 0x80) :
    (Char.ofNat b.toNat).toNat = b.toNat := by
  have small : b.toNat < 0x80 := UInt8.lt_iff_toNat_lt.mp ascii
  apply toNat_ofNat
  unfold Nat.isValidChar
  omega

/-- Different bytes below 0x80 are read as different characters. -/
theorem ofNat_inj {a b : UInt8} (low : a < 0x80) (ascii : b < 0x80)
    (same : Char.ofNat a.toNat = Char.ofNat b.toNat) : a = b := by
  have numbers := congrArg Char.toNat same
  rw [toNat_ofNat_ascii low, toNat_ofNat_ascii ascii] at numbers
  exact UInt8.toNat_inj.mp numbers

theorem piece_ascii {b : UInt8} (ascii : b < 0x80) (rest : Bytes) :
    piece b rest = (.char (Char.ofNat b.toNat) 1, rest) := by
  unfold piece
  rw [if_pos ascii]

/-- Only one byte is read as that character. -/
theorem piece_shown {b first : UInt8} (ascii : b < 0x80) {rest : Bytes}
    (shown : (piece first rest).1.shown = Char.ofNat b.toNat) : first = b := by
  by_cases low : first < 0x80
  · rw [piece_ascii low] at shown
    exact ofNat_inj low ascii shown
  · have beyond := piece_beyond low rest
    have small : b.toNat < 0x80 := UInt8.lt_iff_toNat_lt.mp ascii
    rw [shown, toNat_ofNat_ascii ascii] at beyond
    omega

/-- A piece takes some bytes off the front, and its size says how many. -/
theorem continuations_takes (further payload : Nat) (read rest : Bytes) :
    ∃ taken, rest = taken ++ (continuations further payload read rest).2 ∧
      (continuations further payload read rest).1.size = read.length + taken.length := by
  induction further generalizing payload read rest with
  | zero => exact ⟨[], rfl, rfl⟩
  | succ n ih =>
    cases rest with
    | nil => exact ⟨[], rfl, rfl⟩
    | cons b rest =>
      rw [continuations]
      split
      · obtain ⟨taken, split, size⟩ := ih (payload * 64 + (b.toNat - 0x80)) (read ++ [b]) rest
        refine ⟨b :: taken, by rw [List.cons_append, ← split], ?_⟩
        rw [size]
        simp only [List.length_append, List.length_cons, List.length_nil]
        omega
      · exact ⟨[], rfl, rfl⟩

theorem piece_takes (b : UInt8) (rest : Bytes) :
    ∃ taken, rest = taken ++ (piece b rest).2 ∧ (piece b rest).1.size = taken.length + 1 := by
  unfold piece
  split
  · exact ⟨[], rfl, rfl⟩
  · split
    · exact ⟨[], rfl, rfl⟩
    · exact ⟨[], rfl, rfl⟩
    · rename_i lead second more leading
      split
      · obtain ⟨taken, split, size⟩ := continuations_takes lead.further
          (lead.payload * 64 + (second.toNat - 0x80)) [b, second] more
        refine ⟨second :: taken, by rw [List.cons_append, ← split], ?_⟩
        rw [size]
        simp only [List.length_cons, List.length_nil]
        omega
      · exact ⟨[], rfl, rfl⟩

end Pieces

theorem decode_nil : decode [] = [] := by
  rw [decode, utf8Pieces]
  rfl

theorem decode_cons (b : UInt8) (rest : Bytes) :
    decode (b :: rest) = (piece b rest).1.shown :: decode (piece b rest).2 := by
  rw [decode, utf8Pieces]
  rfl

theorem decode_ascii {b : UInt8} (ascii : b < 0x80) (rest : Bytes) :
    decode (b :: rest) = Char.ofNat b.toNat :: decode rest := by
  rw [decode_cons, piece_ascii ascii]
  rfl

theorem Piece.Alike.shown {one other : Piece} (alike : one.Alike other) :
    one.shown = other.shown := by
  cases alike with
  | char c size => rfl
  | flaw kind other bytes => rfl

/-- The text before a byte below 0x80 is decoded apart from what comes after it. -/
theorem decode_seam {b : UInt8} (ascii : b < 0x80) (front rest : Bytes) :
    decode (front ++ b :: rest) = decode front ++ Char.ofNat b.toNat :: decode rest := by
  obtain ⟨pieces, alike, same⟩ := utf8Pieces_seam ascii front
  have shown : pieces.map Piece.shown = decode front := by
    have same : List.Forall₂ (· = ·) (decode front) (pieces.map Piece.shown) := by
      rw [decode, List.forall₂_map_left_iff, List.forall₂_map_right_iff]
      exact alike.imp fun _ _ => Piece.Alike.shown
    exact (List.forall₂_eq_eq_eq ▸ same).symm
  rw [← decode_ascii ascii rest, decode, same, List.map_append, shown]
  rfl

/-- How many bytes the first `n` of some pieces take. -/
def Piece.extent : List Piece → Nat → Nat
  | one :: rest, n + 1 => one.size + extent rest n
  | _, _ => 0

/-- How many bytes the first `n` characters were read from. -/
def extent (bytes : Bytes) (n : Nat) : Nat := Piece.extent (utf8Pieces bytes) n

theorem extent_cons (b : UInt8) (rest : Bytes) (n : Nat) :
    extent (b :: rest) (n + 1) = (piece b rest).1.size + extent (piece b rest).2 n := by
  rw [extent, utf8Pieces]
  rfl

theorem Piece.extent_mono (pieces : List Piece) {m n : Nat} (less : m ≤ n) :
    extent pieces m ≤ extent pieces n := by
  induction pieces generalizing m n with
  | nil => exact Nat.le_refl 0
  | cons one rest ih =>
    cases m with
    | zero => exact Nat.zero_le _
    | succ m =>
      obtain ⟨n, rfl⟩ := Nat.exists_eq_add_one_of_ne_zero (by omega : n ≠ 0)
      have rest := ih (Nat.le_of_succ_le_succ less)
      simp only [extent]
      omega

/-- Where a character below U+0080 was read, its byte stands, and what was read before it was read
from the bytes in front. -/
theorem decode_split {b : UInt8} (ascii : b < 0x80) {bytes : Bytes} {before behind : List Char}
    (split : decode bytes = before ++ Char.ofNat b.toNat :: behind) :
    ∃ front rest, bytes = front ++ b :: rest ∧ decode front = before ∧
      extent bytes (before.length + 1) = front.length + 1 := by
  -- Over the characters before: one of them takes a piece, which ends before the byte is reached.
  induction before generalizing bytes with
  | nil =>
    cases bytes with
    | nil => simp [decode_nil] at split
    | cons first rest =>
      rw [decode_cons, List.nil_append, List.cons.injEq] at split
      obtain rfl := piece_shown ascii split.1
      refine ⟨[], rest, rfl, decode_nil, ?_⟩
      rw [List.length_nil, extent_cons, piece_ascii ascii]
      simp [Piece.size, extent, Piece.extent]
  | cons c before ih =>
    cases bytes with
    | nil => simp [decode_nil] at split
    | cons first rest =>
      rw [decode_cons, List.cons_append, List.cons.injEq] at split
      obtain ⟨front, back, more, decoded, size⟩ := ih split.2
      obtain ⟨taken, cut, taking⟩ := piece_takes first rest
      have whole : rest = (taken ++ front) ++ b :: back := by
        rw [cut, more, List.append_assoc]
      obtain ⟨one, alike, same⟩ := piece_seam ascii first (taken ++ front)
      have there : piece first rest = (one, (piece first (taken ++ front)).2 ++ b :: back) := by
        rw [whole]
        exact same back
      have left : (piece first (taken ++ front)).2 = front := by
        rw [there] at more
        exact List.append_cancel_right more
      refine ⟨first :: (taken ++ front), back, by rw [whole]; rfl, ?_, ?_⟩
      · rw [decode_cons, left, decoded, alike.shown]
        rw [there] at split
        exact congrArg (· :: before) split.1
      · rw [List.length_cons, extent_cons, size, taking]
        simp only [List.length_cons, List.length_append]
        omega

/-- A character below U+0080 is read exactly if its byte is there. -/
theorem mem_decode_iff {b : UInt8} (ascii : b < 0x80) {bytes : Bytes} :
    Char.ofNat b.toNat ∈ decode bytes ↔ b ∈ bytes := by
  constructor
  · intro member
    obtain ⟨before, behind, split⟩ := List.append_of_mem member
    obtain ⟨front, rest, rfl, -⟩ := decode_split ascii split
    simp
  · intro member
    obtain ⟨front, rest, rfl⟩ := List.append_of_mem member
    rw [decode_seam ascii]
    simp

end PerlAudit.Text
