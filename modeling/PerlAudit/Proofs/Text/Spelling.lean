import PerlAudit.Proofs.Text.Seams
import PerlAudit.Text.FileName

/-!
The spelling of file names. A text without halves is spelled by its own bytes, so a name is spelled
anew by reading its bytes, and a slash separates what is spelled before it from what comes after.
-/

namespace PerlAudit.Text

section Characters

theorem toList_loop (bytes : ByteArray) (i : Nat) (read : List UInt8) :
    ByteArray.toList.loop bytes i read = read.reverse ++ bytes.data.toList.drop i := by
  fun_induction ByteArray.toList.loop bytes i read with
  | case1 i read more ih =>
    have inside : i < bytes.data.toList.length := by simpa using more
    rw [ih, List.drop_eq_getElem_cons inside]
    simp [ByteArray.get!, more]
  | case2 i read done =>
    have past : bytes.data.toList.length ≤ i := by simpa using done
    rw [List.drop_of_length_le past, List.append_nil]

theorem encode_char (c : Char) : encode [c] = String.utf8EncodeChar c := by
  have bytes : (String.ofList [c]).toUTF8 = (String.utf8EncodeChar c).toByteArray := by
    simp [List.utf8Encode]
  rw [encode, bytes, ByteArray.toList, toList_loop, List.toList_data_toByteArray]
  rfl

/-- The byte that goes on with a character by six bits. -/
def furtherByte (bits : Nat) : UInt8 := UInt8.ofNat (bits + 128)

theorem further_bits {bits : Nat} (small : bits < 64) :
    isContinuation (furtherByte bits) = true ∧ (furtherByte bits).toNat = bits + 128 := by
  have all : ∀ n < 64, isContinuation (furtherByte n) = true ∧
      (furtherByte n).toNat = n + 128 := by decide
  exact all bits small

theorem continuations_further {bits : Nat} (small : bits < 64) (n payload : Nat)
    (read rest : Bytes) :
    continuations (n + 1) payload read (furtherByte bits :: rest) =
      continuations n (payload * 64 + bits) (read ++ [furtherByte bits]) rest := by
  obtain ⟨goesOn, value⟩ := further_bits small
  rw [continuations, if_pos goesOn, value, Nat.add_sub_cancel]

/-- The second byte must be in the range that the first one gives. -/
theorem piece_further {first : UInt8} {lead : Lead} {bits : Nat}
    (leads : lead? first = some lead ∧ ¬first < 0x80) (small : bits < 64)
    (low : lead.low.toNat ≤ bits + 128) (high : bits + 128 ≤ lead.high.toNat) (rest : Bytes) :
    piece first (furtherByte bits :: rest) =
      continuations lead.further (lead.payload * 64 + bits) [first, furtherByte bits] rest := by
  have value := (further_bits small).2
  have inside : (lead.low ≤ furtherByte bits && furtherByte bits ≤ lead.high) = true := by
    simp only [Bool.and_eq_true, decide_eq_true_eq, UInt8.le_iff_toNat_le, value]
    exact ⟨low, high⟩
  simp only [piece, if_neg leads.2, leads.1]
  rw [if_pos inside, value, Nat.add_sub_cancel]

theorem lead?_two (bits : Nat) (large : 2 ≤ bits) (small : bits < 32) :
    lead? (UInt8.ofNat (bits + 192)) = some ⟨0x80, 0xBF, 0, bits⟩ ∧
      ¬UInt8.ofNat (bits + 192) < 0x80 := by
  have all : ∀ n < 32, 2 ≤ n → lead? (UInt8.ofNat (n + 192)) = some ⟨0x80, 0xBF, 0, n⟩ ∧
      ¬UInt8.ofNat (n + 192) < 0x80 := by decide
  exact all bits small large

theorem lead?_three (bits : Nat) (small : bits < 16) :
    lead? (UInt8.ofNat (bits + 224)) = some ⟨if bits = 0 then 0xA0 else 0x80,
        if bits = 13 then 0x9F else 0xBF, 1, bits⟩ ∧ ¬UInt8.ofNat (bits + 224) < 0x80 := by
  have all : ∀ n < 16, lead? (UInt8.ofNat (n + 224)) = some ⟨if n = 0 then 0xA0 else 0x80,
      if n = 13 then 0x9F else 0xBF, 1, n⟩ ∧ ¬UInt8.ofNat (n + 224) < 0x80 := by decide
  exact all bits small

theorem lead?_four (bits : Nat) (small : bits < 5) :
    lead? (UInt8.ofNat (bits + 240)) = some ⟨if bits = 0 then 0x90 else 0x80,
        if bits = 4 then 0x8F else 0xBF, 2, bits⟩ ∧ ¬UInt8.ofNat (bits + 240) < 0x80 := by
  have all : ∀ n < 5, lead? (UInt8.ofNat (n + 240)) = some ⟨if n = 0 then 0x90 else 0x80,
      if n = 4 then 0x8F else 0xBF, 2, n⟩ ∧ ¬UInt8.ofNat (n + 240) < 0x80 := by decide
  exact all bits small

theorem piece_one {v : Nat} (small : v < 128) (rest : Bytes) :
    piece (UInt8.ofNat v) rest = (.char (Char.ofNat v) 1, rest) := by
  have low : ∀ n < 128, UInt8.ofNat n < 0x80 ∧ (UInt8.ofNat n).toNat = n := by decide
  obtain ⟨ascii, number⟩ := low v small
  unfold piece
  rw [if_pos ascii, number]

theorem piece_two {v : Nat} (large : 128 ≤ v) (small : v < 2048) (rest : Bytes) :
    piece (UInt8.ofNat (v / 64 % 32 + 192)) (furtherByte (v % 64) :: rest) =
      (.char (Char.ofNat v) 2, rest) := by
  have leads := lead?_two (v / 64 % 32) (by omega) (by omega)
  have value : v / 64 % 32 * 64 + v % 64 = v := by omega
  rw [piece_further leads (by omega), continuations, value]
  · rfl
  · simp only [UInt8.reduceToNat]
    omega
  · simp only [UInt8.reduceToNat]
    omega

/-- The numbers between 0xD800 and 0xDFFF are no characters, and no bytes stand for them. -/
theorem piece_three {v : Nat} (large : 2048 ≤ v) (small : v < 65536)
    (valid : v < 0xD800 ∨ 0xDFFF < v) (rest : Bytes) :
    piece (UInt8.ofNat (v / 4096 % 16 + 224))
        (furtherByte (v / 64 % 64) :: furtherByte (v % 64) :: rest) =
      (.char (Char.ofNat v) 3, rest) := by
  have leads := lead?_three (v / 4096 % 16) (by omega)
  have value : (v / 4096 % 16 * 64 + v / 64 % 64) * 64 + v % 64 = v := by omega
  rw [piece_further leads (by omega), continuations_further (by omega), continuations, value]
  · rfl
  · simp only [apply_ite UInt8.toNat, UInt8.reduceToNat]
    split <;> omega
  · simp only [apply_ite UInt8.toNat, UInt8.reduceToNat]
    split <;> omega

theorem piece_four {v : Nat} (large : 65536 ≤ v) (small : v < 0x110000) (rest : Bytes) :
    piece (UInt8.ofNat (v / 262144 % 8 + 240))
        (furtherByte (v / 4096 % 64) :: furtherByte (v / 64 % 64) :: furtherByte (v % 64) ::
          rest) =
      (.char (Char.ofNat v) 4, rest) := by
  have leads := lead?_four (v / 262144 % 8) (by omega)
  have value :
      ((v / 262144 % 8 * 64 + v / 4096 % 64) * 64 + v / 64 % 64) * 64 + v % 64 = v := by
    omega
  rw [piece_further leads (by omega), continuations_further (by omega),
    continuations_further (by omega), continuations, value]
  · rfl
  · simp only [apply_ite UInt8.toNat, UInt8.reduceToNat]
    split <;> omega
  · simp only [apply_ite UInt8.toNat, UInt8.reduceToNat]
    split <;> omega

/-- The bytes of a character are read as that character. -/
theorem piece_char (c : Char) : ∃ first more, String.utf8EncodeChar c = first :: more ∧
    ∀ rest, ∃ size, piece first (more ++ rest) = (.char c size, rest) := by
  have valid : c.val.toNat < 0xD800 ∨ 0xDFFF < c.val.toNat ∧ c.val.toNat < 0x110000 := c.valid
  have same : Char.ofNat c.val.toNat = c := Char.ofNat_toNat c
  unfold String.utf8EncodeChar
  generalize c.val.toNat = v at valid same ⊢
  subst same
  dsimp only
  split
  · exact ⟨_, [], rfl, fun rest => ⟨1, piece_one (by omega) rest⟩⟩
  · split
    · exact ⟨_, [furtherByte (v % 64)], rfl, fun rest =>
        ⟨2, piece_two (by omega) (by omega) rest⟩⟩
    · split
      · exact ⟨_, [furtherByte (v / 64 % 64), furtherByte (v % 64)], rfl, fun rest =>
          ⟨3, piece_three (by omega) (by omega) (by omega) rest⟩⟩
      · exact ⟨_, [furtherByte (v / 4096 % 64), furtherByte (v / 64 % 64), furtherByte (v % 64)],
          rfl, fun rest => ⟨4, piece_four (by omega) (by omega) rest⟩⟩

end Characters

section Names

theorem nameBytes_append (t u : Text) : nameBytes (t ++ u) = nameBytes t ++ nameBytes u :=
  List.flatMap_append

theorem spelling_char (c : Char) (rest : Bytes) :
    spelling (pointBytes (.char c) ++ rest) = .char c :: spelling rest := by
  obtain ⟨first, more, bytes, read⟩ := piece_char c
  obtain ⟨size, piece⟩ := read rest
  rw [pointBytes, encode_char, bytes, List.cons_append, spelling, utf8Pieces, piece]
  rfl

/-- A text without halves is spelled by its own bytes. -/
theorem spelling_nameBytes {t : Text} (whole : t.any (·.isHalf) = false) :
    spelling (nameBytes t) = t := by
  induction t with
  | nil =>
    rw [nameBytes, spelling, List.flatMap_nil, utf8Pieces]
    rfl
  | cons p t ih =>
    obtain ⟨first, rest⟩ : p.isHalf = false ∧ t.any (·.isHalf) = false := by simpa using whole
    cases p with
    | char c => rw [nameBytes, List.flatMap_cons, spelling_char, ← nameBytes, ih rest]
    | half offset => cases first

/-- A name is spelled anew by reading its bytes. -/
theorem respell_eq (t : Text) : respell t = spelling (nameBytes t) := by
  unfold respell
  split
  · rfl
  · rename_i whole
    rw [spelling_nameBytes (eq_false_of_ne_true whole)]

/-- What is spelled before a byte below 0x80 does not depend on what follows. -/
theorem spelling_seam {b : UInt8} (ascii : b < 0x80) (front rest : Bytes) :
    spelling (front ++ b :: rest) = spelling front ++ spelling (b :: rest) := by
  obtain ⟨pieces, alike, same⟩ := utf8Pieces_seam ascii front
  rw [spelling, same, List.flatMap_append, spelling, spelling]
  congr 1
  clear same
  generalize utf8Pieces front = before at alike
  induction alike with
  | nil => rfl
  | cons one _ ih =>
    rw [List.flatMap_cons, List.flatMap_cons, ih]
    cases one <;> rfl

/-- A slash separates spellings. -/
theorem respell_slash (t u : Text) :
    respell (t ++ .char '/' :: u) = respell t ++ .char '/' :: respell u := by
  have slash : pointBytes (.char '/') = [47] := by
    rw [pointBytes, encode_char]
    rfl
  have apart : nameBytes (t ++ .char '/' :: u) = nameBytes t ++ 47 :: nameBytes u := by
    rw [nameBytes_append, nameBytes, nameBytes, List.flatMap_cons, slash]
    rfl
  have after : spelling (47 :: nameBytes u) = .char '/' :: spelling (nameBytes u) := by
    rw [← spelling_char, slash]
    rfl
  rw [respell_eq, respell_eq, respell_eq, apart, spelling_seam (by decide), after]

/-- Whether a code point is a character of ASCII other than the null character. -/
def isAscii (p : CodePoint) : Bool := p.isIn fun c => 0 < c.toNat && c.toNat < 128

theorem respell_ascii {t : Text} (ascii : ∀ p ∈ t, isAscii p = true) : respell t = t := by
  unfold respell
  rw [if_neg]
  simp only [List.any_eq_true, not_exists, not_and]
  intro p member
  have plain := ascii p member
  cases p with
  | char c => simp [CodePoint.isHalf]
  | half offset => cases plain

/-- Each character of ASCII is one byte. -/
theorem nameBytes_ascii_length {t : Text} (ascii : ∀ p ∈ t, isAscii p = true) :
    (nameBytes t).length = t.length := by
  induction t with
  | nil => rfl
  | cons p t ih =>
    obtain ⟨first, rest⟩ := List.forall_mem_cons.mp ascii
    cases p with
    | half offset => cases first
    | char c =>
      have small : c.val.toNat ≤ 127 := by
        simp only [isAscii, CodePoint.isIn, Bool.and_eq_true, decide_eq_true_eq] at first
        exact Nat.le_of_lt_succ first.2
      have one : pointBytes (.char c) = [UInt8.ofNat c.val.toNat] := by
        rw [pointBytes, encode_char, String.utf8EncodeChar, if_pos small]
      rw [nameBytes, List.flatMap_cons, one, List.length_append, ← nameBytes, ih rest,
        List.length_singleton, List.length_cons, Nat.add_comm]

end Names

end PerlAudit.Text
