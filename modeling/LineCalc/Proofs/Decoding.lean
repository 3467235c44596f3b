import Mathlib.Data.List.Basic
import Mathlib.Tactic.SplitIfs
import LineCalc.Text.Lines
import LineCalc.Text.Utf8

/-!
# Decoding bytes and cutting lines

Bytes can be cut into lines before or after they are decoded (`lines_decodeLossy`).  There
are three parts to it.

* Decoding loses no bytes.  The pieces that are read have the bytes (`flatMap_bytes_pieces`),
  because a first byte and the bytes that may follow it are those of the character that they
  make up (`encode_of_lead?`).  Hence ill-formed bytes leave a replacement character
  (`replacement_mem_decodeLossy`).
* An ASCII byte is read on its own.  It begins no longer character and continues none, so
  that it ends whatever stands before it (`decodeLossy_append`), and the ASCII characters
  that are read are among the bytes (`mem_of_mem_decodeLossy`).
* `Lines` says what the lines of a sequence of symbols are, one constructor for each way in
  which a line ends.  `cutLines` finds them (`lines_cutLines`) and there are no others
  (`Lines.cutLines_eq`).  Decoding keeps the relation, by cases on it (`Lines.decodeLossy`).

A carriage return is told from one with a line feed behind it by the byte behind it, which
is why the first character that is read matters (`head?_of_head?_decodeLossy`).
-/

namespace LineCalc.Text

/-! ## Characters and their bytes -/

theorem toNat_of_char? {n : Nat} {c : Char} (h : char? n = some c) : c.toNat = n := by
  by_cases hvalid : n.isValidChar
  · rw [char?, dif_pos hvalid] at h
    cases h
    rfl
  · rw [char?, dif_neg hvalid] at h
    cases h

theorem char?_toNat (c : Char) : char? c.toNat = some c := by
  have hvalid : c.toNat.isValidChar := c.valid
  rw [char?, dif_pos hvalid]
  rfl

/-- The bytes of a piece. -/
def Piece.bytes : Piece → List UInt8
  | .char c => String.utf8EncodeChar c
  | .fault _ bytes => bytes

/-- The second byte of a character lies in a range of its own, and the later ones are any
continuation bytes. -/
def Continues (least greatest : Nat) : List UInt8 → Prop
  | [] => True
  | b :: rest => least ≤ b.toNat ∧ b.toNat ≤ greatest ∧ Continues 0x80 0xBF rest

/-- The code point that continuation bytes make up with the bits before them. -/
def codePoint (value : Nat) (bytes : List UInt8) : Nat :=
  bytes.foldl (fun value b => value * 64 + (b.toNat - 0x80)) value

theorem continueChar_eq_char {taken : List UInt8} {value n least greatest : Nat}
    {bytes rest : List UInt8} {c : Char}
    (h : continueChar taken value n least greatest bytes = (.char c, rest)) :
    ∃ read, read.length = n ∧ Continues least greatest read ∧ bytes = read ++ rest ∧
      c.toNat = codePoint value read := by
  induction n generalizing taken value least greatest bytes with
  | zero =>
    rw [continueChar] at h
    split at h
    · next hc =>
      cases h
      exact ⟨[], rfl, trivial, rfl, toNat_of_char? hc⟩
    · cases h
  | succ n ih =>
    cases bytes with
    | nil =>
      rw [continueChar] at h
      cases h
    | cons b bytes =>
      rw [continueChar] at h
      split at h
      · next hb =>
        obtain ⟨read, hlength, hread, rfl, hc⟩ := ih h
        refine ⟨b :: read, ?_, ⟨hb.1, hb.2, hread⟩, ?_, ?_⟩
        · rw [List.length_cons, hlength]
        · rw [List.cons_append]
        · rw [hc, codePoint, codePoint, List.foldl_cons]
      · cases h

theorem continueChar_eq_fault {taken : List UInt8} {value n least greatest : Nat}
    {bytes rest seq : List UInt8} {reason : Utf8Fault}
    (h : continueChar taken value n least greatest bytes = (.fault reason seq, rest)) :
    taken.reverse ++ bytes = seq ++ rest := by
  induction n generalizing taken value least greatest bytes with
  | zero =>
    rw [continueChar] at h
    split at h
    · cases h
    · cases h
      rfl
  | succ n ih =>
    cases bytes with
    | nil =>
      rw [continueChar] at h
      cases h
      rfl
    | cons b bytes =>
      rw [continueChar] at h
      split at h
      · rw [← ih h]
        simp
      · cases h
        rfl

/-- What the first byte of a character of more than one byte says. -/
theorem lead?_cases {b : Nat} {lead : Lead} (h : lead? b = some lead) :
    0x80 ≤ lead.leastSecond ∧ lead.greatestSecond ≤ 0xBF ∧
      (lead.continuations = 1 ∧ b = 0xC0 + lead.bits ∧ 2 ≤ lead.bits ∧ lead.bits < 0x20 ∨
        lead.continuations = 2 ∧ b = 0xE0 + lead.bits ∧ lead.bits < 0x10 ∧
          0x20 ≤ lead.bits * 64 + (lead.leastSecond - 0x80) ∨
        lead.continuations = 3 ∧ b = 0xF0 + lead.bits ∧ lead.bits < 8 ∧
          0x10 ≤ lead.bits * 64 + (lead.leastSecond - 0x80)) := by
  unfold lead? at h
  split_ifs at h
  all_goals
    cases h
    simp
    omega

theorem encode_ascii {c : Char} {b : UInt8} (hb : b.toNat < 0x80) (hc : c.toNat = b.toNat) :
    String.utf8EncodeChar c = [b] := by
  have hval : c.val.toNat = b.toNat := hc
  rw [String.utf8EncodeChar]
  simp only [hval]
  rw [if_pos (by omega), UInt8.ofNat_toNat]

theorem ofNat_eq {n : Nat} {b : UInt8} (h : n = b.toNat) : UInt8.ofNat n = b := by
  rw [h, UInt8.ofNat_toNat]

theorem encode_two {c : Char} {b d : UInt8} {bits : Nat} (hb : b.toNat = 0xC0 + bits)
    (hleast : 2 ≤ bits) (hbits : bits < 0x20) (hd : Continues 0x80 0xBF [d])
    (hc : c.toNat = codePoint bits [d]) : String.utf8EncodeChar c = [b, d] := by
  have hval : c.val.toNat = bits * 64 + (d.toNat - 0x80) := hc
  obtain ⟨hd, hd', -⟩ := hd
  rw [String.utf8EncodeChar]
  simp only [hval]
  rw [if_neg (by omega), if_pos (by omega), ofNat_eq (b := b) (by omega),
    ofNat_eq (b := d) (by omega)]

theorem encode_three {c : Char} {b d e : UInt8} {bits : Nat} (hb : b.toNat = 0xE0 + bits)
    (hbits : bits < 0x10) (hd : Continues 0x80 0xBF [d, e])
    (hleast : 0x20 ≤ codePoint bits [d]) (hc : c.toNat = codePoint bits [d, e]) :
    String.utf8EncodeChar c = [b, d, e] := by
  have hval : c.val.toNat = (bits * 64 + (d.toNat - 0x80)) * 64 + (e.toNat - 0x80) := hc
  have hlow : 0x20 ≤ bits * 64 + (d.toNat - 0x80) := hleast
  obtain ⟨hd, hd', he, he', -⟩ := hd
  rw [String.utf8EncodeChar]
  simp only [hval]
  rw [if_neg (by omega), if_neg (by omega), if_pos (by omega), ofNat_eq (b := b) (by omega),
    ofNat_eq (b := d) (by omega), ofNat_eq (b := e) (by omega)]

theorem encode_four {c : Char} {b d e f : UInt8} {bits : Nat} (hb : b.toNat = 0xF0 + bits)
    (hbits : bits < 8) (hd : Continues 0x80 0xBF [d, e, f])
    (hleast : 0x10 ≤ codePoint bits [d]) (hc : c.toNat = codePoint bits [d, e, f]) :
    String.utf8EncodeChar c = [b, d, e, f] := by
  have hval : c.val.toNat =
      ((bits * 64 + (d.toNat - 0x80)) * 64 + (e.toNat - 0x80)) * 64 + (f.toNat - 0x80) := hc
  have hlow : 0x10 ≤ bits * 64 + (d.toNat - 0x80) := hleast
  obtain ⟨hd, hd', he, he', hf, hf', -⟩ := hd
  rw [String.utf8EncodeChar]
  simp only [hval]
  rw [if_neg (by omega), if_neg (by omega), if_neg (by omega), ofNat_eq (b := b) (by omega),
    ofNat_eq (b := d) (by omega), ofNat_eq (b := e) (by omega), ofNat_eq (b := f) (by omega)]

/-- No character begins with a byte above those of the characters of four bytes. -/
theorem exists_encode_eq_cons (c : Char) :
    ∃ b bytes, String.utf8EncodeChar c = b :: bytes ∧ b.toNat < 0xF8 := by
  have hvalid : c.val.toNat < 0x110000 := by
    rcases c.valid with hbelow | ⟨-, habove⟩
    · exact Nat.lt_trans hbelow (by decide)
    · exact habove
  rw [String.utf8EncodeChar]
  split_ifs
  all_goals
    refine ⟨_, _, rfl, ?_⟩
    rw [UInt8.toNat_ofNat']
    omega

theorem Continues.mono {least greatest : Nat} {bytes : List UInt8} (hleast : 0x80 ≤ least)
    (hgreatest : greatest ≤ 0xBF) (h : Continues least greatest bytes) :
    Continues 0x80 0xBF bytes := by
  cases bytes with
  | nil => trivial
  | cons b rest => exact ⟨Nat.le_trans hleast h.1, Nat.le_trans h.2.1 hgreatest, h.2.2⟩

/-- A first byte and the bytes that may follow it encode the character that they make up. -/
theorem encode_of_lead? {b : UInt8} {lead : Lead} {read : List UInt8} {c : Char}
    (hlead : lead? b.toNat = some lead) (hlength : read.length = lead.continuations)
    (hread : Continues lead.leastSecond lead.greatestSecond read)
    (hc : c.toNat = codePoint lead.bits read) : String.utf8EncodeChar c = b :: read := by
  obtain ⟨hleast, hgreatest, hcases⟩ := lead?_cases hlead
  have hmono := hread.mono hleast hgreatest
  rcases hcases with ⟨hcount, hb, hbits, hbits'⟩ | ⟨hcount, hb, hbits, hlow⟩ |
    ⟨hcount, hb, hbits, hlow⟩
  · rw [hcount] at hlength
    obtain ⟨d, rfl⟩ := List.length_eq_one_iff.1 hlength
    exact encode_two hb hbits hbits' hmono hc
  · rw [hcount] at hlength
    obtain ⟨d, e, rfl⟩ := List.length_eq_two.1 hlength
    have hsecond := hread.1
    refine encode_three hb hbits hmono ?_ hc
    show 0x20 ≤ lead.bits * 64 + (d.toNat - 0x80)
    omega
  · rw [hcount] at hlength
    obtain ⟨d, e, f, rfl⟩ := List.length_eq_three.1 hlength
    have hsecond := hread.1
    refine encode_four hb hbits hmono ?_ hc
    show 0x10 ≤ lead.bits * 64 + (d.toNat - 0x80)
    omega

/-! ## Nothing of the bytes is lost -/

/-- The bytes of the first piece have been read. -/
theorem bytes_firstPiece (b : UInt8) (rest : List UInt8) :
    (firstPiece b rest).1.bytes ++ (firstPiece b rest).2 = b :: rest := by
  rw [firstPiece]
  split
  · next hb =>
    split
    · next c hc =>
      rw [Piece.bytes, encode_ascii hb (toNat_of_char? hc)]
      rfl
    · rfl
  · split
    · rfl
    · next lead hlead =>
      generalize hpiece : continueChar [b] lead.bits lead.continuations lead.leastSecond
        lead.greatestSecond rest = piece
      obtain ⟨c | ⟨reason, seq⟩, behind⟩ := piece
      · obtain ⟨read, hlength, hread, rfl, hc⟩ := continueChar_eq_char hpiece
        rw [Piece.bytes, encode_of_lead? hlead hlength hread hc]
        rfl
      · exact (continueChar_eq_fault hpiece).symm

theorem flatMap_bytes_pieces (bytes : List UInt8) : (pieces bytes).flatMap Piece.bytes = bytes := by
  induction bytes using pieces.induct with
  | case1 => rw [pieces, List.flatMap_nil]
  | case2 b rest ih => rw [pieces, List.flatMap_cons, ih, bytes_firstPiece]

theorem decodeLossy_cons (d : UInt8) (bytes : List UInt8) :
    decodeLossy (d :: bytes) =
      (firstPiece d bytes).1.toChar :: decodeLossy (firstPiece d bytes).2 := by
  rw [decodeLossy, pieces, List.map_cons, decodeLossy]

/-- The bytes of a text. -/
def encode (text : Text) : List UInt8 :=
  text.flatMap String.utf8EncodeChar

/-- The bytes are those of no text. -/
def IllFormed (bytes : List UInt8) : Prop :=
  ∀ text : Text, bytes ≠ encode text

theorem illFormed_of_head {b : UInt8} (hb : 0xF8 ≤ b.toNat) (bytes : List UInt8) :
    IllFormed (b :: bytes) := by
  intro text h
  cases text with
  | nil => cases h
  | cons c rest =>
    obtain ⟨d, behind, hencode, hd⟩ := exists_encode_eq_cons c
    rw [encode, List.flatMap_cons, hencode, List.cons_append, List.cons.injEq] at h
    rw [h.1] at hb
    omega

/-- Ill-formed bytes are read with a replacement character. -/
theorem replacement_mem_decodeLossy {bytes : List UInt8} (h : IllFormed bytes) :
    replacement ∈ decodeLossy bytes := by
  by_contra hnone
  have hchar : ∀ piece ∈ pieces bytes, piece.bytes = String.utf8EncodeChar piece.toChar := by
    intro piece hpiece
    cases piece with
    | char c => rfl
    | fault reason seq => exact absurd (List.mem_map_of_mem hpiece) hnone
  refine h (decodeLossy bytes) ?_
  rw [encode, decodeLossy, List.flatMap_map, ← List.flatMap_congr hchar, flatMap_bytes_pieces]

theorem Piece.bytes_of_ascii {piece : Piece} {b : UInt8} (hb : b.toNat < 0x80)
    (hpiece : piece.toChar.toNat = b.toNat) : piece.bytes = [b] := by
  cases piece with
  | char c => exact encode_ascii hb hpiece
  | fault reason seq =>
    have hreplacement : replacement.toNat = 0xFFFD := rfl
    rw [Piece.toChar, hreplacement] at hpiece
    omega

/-- An ASCII character that is read stands among the bytes. -/
theorem mem_of_mem_decodeLossy {bytes : List UInt8} {c : Char} {b : UInt8} (hb : b.toNat < 0x80)
    (hc : c.toNat = b.toNat) (hmem : c ∈ decodeLossy bytes) : b ∈ bytes := by
  obtain ⟨piece, hpiece, rfl⟩ := List.mem_map.1 hmem
  rw [← flatMap_bytes_pieces bytes, List.mem_flatMap]
  refine ⟨piece, hpiece, ?_⟩
  rw [Piece.bytes_of_ascii hb hc]
  exact List.mem_singleton_self b

/-- An ASCII character that is read first stands first among the bytes. -/
theorem head?_of_head?_decodeLossy {bytes : List UInt8} {c : Char} {b : UInt8}
    (hb : b.toNat < 0x80) (hc : c.toNat = b.toNat) (hhead : (decodeLossy bytes).head? = some c) :
    bytes.head? = some b := by
  cases bytes with
  | nil =>
    rw [decodeLossy, pieces] at hhead
    cases hhead
  | cons d bytes =>
    rw [decodeLossy_cons, List.head?_cons, Option.some.injEq] at hhead
    rw [← bytes_firstPiece d bytes, Piece.bytes_of_ascii hb (hhead ▸ hc)]
    rfl

/-! ## An ASCII byte is part of no other character -/

section Ascii

variable {b : UInt8} (hb : b.toNat < 0x80) (rest : List UInt8)
include hb

theorem continueChar_append (taken : List UInt8) (value n : Nat) {least greatest : Nat}
    (hleast : 0x80 ≤ least) (bytes : List UInt8) :
    (continueChar taken value n least greatest (bytes ++ b :: rest)).1.toChar =
        (continueChar taken value n least greatest bytes).1.toChar ∧
      (continueChar taken value n least greatest (bytes ++ b :: rest)).2 =
        (continueChar taken value n least greatest bytes).2 ++ b :: rest := by
  induction n generalizing taken value least greatest bytes with
  | zero =>
    rw [continueChar, continueChar]
    cases char? value <;> exact ⟨rfl, rfl⟩
  | succ n ih =>
    cases bytes with
    | nil =>
      -- The character is cut short by the end, or by the ASCII byte.
      rw [List.nil_append, continueChar, continueChar, if_neg (by omega)]
      exact ⟨rfl, rfl⟩
    | cons d bytes =>
      rw [List.cons_append, continueChar, continueChar]
      split
      · exact ih _ _ (Nat.le_refl _) _
      · exact ⟨rfl, rfl⟩

theorem firstPiece_append (d : UInt8) (bytes : List UInt8) :
    (firstPiece d (bytes ++ b :: rest)).1.toChar = (firstPiece d bytes).1.toChar ∧
      (firstPiece d (bytes ++ b :: rest)).2 = (firstPiece d bytes).2 ++ b :: rest := by
  rw [firstPiece, firstPiece]
  split
  · cases char? d.toNat <;> exact ⟨rfl, rfl⟩
  · split
    · exact ⟨rfl, rfl⟩
    · next lead hlead => exact continueChar_append hb rest _ _ _ (lead?_cases hlead).1 bytes

theorem firstPiece_ascii : firstPiece b rest = (.char (Char.ofUInt8 b), rest) := by
  have hchar : char? b.toNat = some (Char.ofUInt8 b) := char?_toNat (Char.ofUInt8 b)
  rw [firstPiece, if_pos hb, hchar]

/-- An ASCII byte is read as its character, whatever stands before it. -/
theorem decodeLossy_append (bytes : List UInt8) :
    decodeLossy (bytes ++ b :: rest) =
      decodeLossy bytes ++ Char.ofUInt8 b :: decodeLossy rest := by
  induction bytes using pieces.induct with
  | case1 =>
    have hnone : decodeLossy [] = [] := by rw [decodeLossy, pieces, List.map_nil]
    rw [List.nil_append, decodeLossy_cons, firstPiece_ascii hb, hnone]
    rfl
  | case2 d bytes ih =>
    obtain ⟨hpiece, hbehind⟩ := firstPiece_append hb rest d bytes
    rw [List.cons_append, decodeLossy_cons, hpiece, hbehind, ih, decodeLossy_cons, List.cons_append]

end Ascii

/-! ## Lines of symbols -/

/-- The lines of a sequence of symbols: each ends at the first line feed or carriage return,
and a line feed behind a carriage return belongs to it.  The last one may lack its end. -/
inductive Lines {α : Type} (lf cr : α) : List α → List (List α) → Prop where
  | none : Lines lf cr [] []
  | last {line : List α} (hne : line ≠ []) (hlf : lf ∉ line) (hcr : cr ∉ line) :
      Lines lf cr line [line]
  | lineFeed {line rest : List α} {lines : List (List α)} (hlf : lf ∉ line) (hcr : cr ∉ line)
      (hrest : Lines lf cr rest lines) : Lines lf cr (line ++ lf :: rest) (line :: lines)
  | both {line rest : List α} {lines : List (List α)} (hlf : lf ∉ line) (hcr : cr ∉ line)
      (hrest : Lines lf cr rest lines) : Lines lf cr (line ++ cr :: lf :: rest) (line :: lines)
  | carriageReturn {line rest : List α} {lines : List (List α)} (hlf : lf ∉ line)
      (hcr : cr ∉ line) (hbehind : rest.head? ≠ some lf) (hrest : Lines lf cr rest lines) :
      Lines lf cr (line ++ cr :: rest) (line :: lines)

section Lines

variable {α : Type} [DecidableEq α] {lf cr : α}

theorem cutLine_append {line : List α} (hlf : lf ∉ line) (hcr : cr ∉ line) (s : List α) :
    cutLine lf cr (line ++ s) = (line ++ (cutLine lf cr s).1, (cutLine lf cr s).2) := by
  induction line with
  | nil => rfl
  | cons c line ih =>
    rw [List.mem_cons, not_or] at hlf hcr
    simp only [List.cons_append, cutLine, Ne.symm hlf.1, Ne.symm hcr.1, if_false,
      ih hlf.2 hcr.2]

theorem cutLine_lineFeed (rest : List α) : cutLine lf cr (lf :: rest) = ([], some rest) := by
  simp [cutLine]

theorem cutLine_both (hne : cr ≠ lf) (rest : List α) :
    cutLine lf cr (cr :: lf :: rest) = ([], some rest) := by
  simp [cutLine, hne]

theorem cutLine_carriageReturn (hne : cr ≠ lf) {rest : List α} (hbehind : rest.head? ≠ some lf) :
    cutLine lf cr (cr :: rest) = ([], some rest) := by
  cases rest with
  | nil => simp [cutLine, hne]
  | cons c rest =>
    have hc : c ≠ lf := fun hc => hbehind (congrArg some hc)
    simp [cutLine, hne, hc]

theorem cutLines_of_some {s line behind : List α} (h : cutLine lf cr s = (line, some behind)) :
    cutLines lf cr s = line :: cutLines lf cr behind := by
  rw [cutLines]
  split
  · next hsome =>
    rw [h] at hsome
    cases hsome
    rfl
  · next hnone =>
    rw [h] at hnone
    cases hnone
  · next hnone =>
    rw [h] at hnone
    cases hnone

theorem cutLines_of_not_mem {line : List α} (hne : line ≠ []) (hlf : lf ∉ line) (hcr : cr ∉ line) :
    cutLines lf cr line = [line] := by
  have hcut : cutLine lf cr line = (line, none) := by
    have happend := cutLine_append hlf hcr []
    rwa [List.append_nil, cutLine, List.append_nil] at happend
  rw [cutLines]
  split
  · next hsome =>
    rw [hcut] at hsome
    cases hsome
  · next hnone =>
    rw [hcut] at hnone
    exact absurd (Prod.mk.inj hnone).1 hne
  · next hnone =>
    rw [hcut] at hnone
    rw [(Prod.mk.inj hnone).1]

theorem cutLines_nil : cutLines lf cr ([] : List α) = [] := by
  rw [cutLines, cutLine]

theorem cutLines_append {line s behind : List α} (hlf : lf ∉ line) (hcr : cr ∉ line)
    (h : cutLine lf cr s = ([], some behind)) :
    cutLines lf cr (line ++ s) = line :: cutLines lf cr behind := by
  refine cutLines_of_some ?_
  rw [cutLine_append hlf hcr, h, List.append_nil]

/-- The lines are those that are cut. -/
theorem Lines.cutLines_eq (hne : cr ≠ lf) {s : List α} {lines : List (List α)}
    (h : Lines lf cr s lines) : cutLines lf cr s = lines := by
  induction h with
  | none => exact cutLines_nil
  | last hline hlf hcr => exact cutLines_of_not_mem hline hlf hcr
  | lineFeed hlf hcr hrest ih => rw [cutLines_append hlf hcr (cutLine_lineFeed _), ih]
  | both hlf hcr hrest ih => rw [cutLines_append hlf hcr (cutLine_both hne _), ih]
  | carriageReturn hlf hcr hbehind hrest ih =>
    rw [cutLines_append hlf hcr (cutLine_carriageReturn hne hbehind), ih]

/-- What stands before the first end and behind it. -/
theorem cutLine_parts (lf cr : α) (s : List α) :
    lf ∉ (cutLine lf cr s).1 ∧ cr ∉ (cutLine lf cr s).1 ∧
      match (cutLine lf cr s).2 with
      | none => s = (cutLine lf cr s).1
      | some behind =>
        s = (cutLine lf cr s).1 ++ lf :: behind ∨
          s = (cutLine lf cr s).1 ++ cr :: lf :: behind ∨
          s = (cutLine lf cr s).1 ++ cr :: behind ∧ behind.head? ≠ some lf := by
  induction s with
  | nil => simp [cutLine]
  | cons c rest ih =>
    simp only [cutLine]
    split
    · next hc => simp [hc]
    · next hlf =>
      split
      · next hc =>
        cases rest with
        | nil => simp [hc]
        | cons d rest =>
          by_cases hd : d = lf
          · simp [hc, hd]
          · simp [hc, hd]
      · next hcr =>
        obtain ⟨hlf', hcr', hparts⟩ := ih
        refine ⟨?_, ?_, ?_⟩
        · simp [Ne.symm hlf, hlf']
        · simp [Ne.symm hcr, hcr']
        · cases hbehind : (cutLine lf cr rest).2 with
          | none =>
            rw [hbehind] at hparts
            exact congrArg (c :: ·) hparts
          | some behind =>
            rw [hbehind] at hparts
            simpa using hparts

/-- What is cut are the lines. -/
theorem lines_cutLines (lf cr : α) (s : List α) : Lines lf cr s (cutLines lf cr s) := by
  induction s using cutLines.induct lf cr with
  | case1 s line behind hcut ih =>
    obtain ⟨hlf, hcr, hparts⟩ := cutLine_parts lf cr s
    rw [hcut] at hlf hcr hparts
    rw [cutLines_of_some hcut]
    rcases hparts with rfl | rfl | ⟨rfl, hbehind⟩
    · exact .lineFeed hlf hcr ih
    · exact .both hlf hcr ih
    · exact .carriageReturn hlf hcr hbehind ih
  | case2 s hcut =>
    obtain ⟨-, -, hparts⟩ := cutLine_parts lf cr s
    rw [hcut] at hparts
    rw [hparts, cutLines_nil]
    exact .none
  | case3 s line hline hcut =>
    obtain ⟨hlf, hcr, hparts⟩ := cutLine_parts lf cr s
    rw [hcut] at hlf hcr hparts
    rw [hparts, cutLines_of_not_mem hline hlf hcr]
    exact .last hline hlf hcr

end Lines

/-! ## Lines of bytes -/

theorem decodeLossy_ne_nil {bytes : List UInt8} (h : bytes ≠ []) : decodeLossy bytes ≠ [] := by
  obtain ⟨b, rest, rfl⟩ := List.exists_cons_of_ne_nil h
  rw [decodeLossy_cons]
  exact List.cons_ne_nil _ _

/-- Decoding takes the lines of bytes to the lines of the text. -/
theorem Lines.decodeLossy {bytes : List UInt8} {lines : List (List UInt8)}
    (h : Lines 10 13 bytes lines) :
    Lines '\n' '\r' (decodeLossy bytes) (lines.map Text.decodeLossy) := by
  have hlf : (10 : UInt8).toNat < 0x80 := by decide
  have hcr : (13 : UInt8).toNat < 0x80 := by decide
  have hnotLf {line : List UInt8} (hline : 10 ∉ line) : '\n' ∉ Text.decodeLossy line :=
    fun hmem => hline (mem_of_mem_decodeLossy hlf rfl hmem)
  have hnotCr {line : List UInt8} (hline : 13 ∉ line) : '\r' ∉ Text.decodeLossy line :=
    fun hmem => hline (mem_of_mem_decodeLossy hcr rfl hmem)
  induction h with
  | none =>
    rw [Text.decodeLossy, pieces]
    exact .none
  | last hne hlfLine hcrLine =>
    exact .last (decodeLossy_ne_nil hne) (hnotLf hlfLine) (hnotCr hcrLine)
  | lineFeed hlfLine hcrLine hrest ih =>
    rw [decodeLossy_append hlf]
    exact .lineFeed (hnotLf hlfLine) (hnotCr hcrLine) ih
  | @both line rest lines hlfLine hcrLine hrest ih =>
    have hfeed : Text.decodeLossy (10 :: rest) = '\n' :: Text.decodeLossy rest := by
      rw [decodeLossy_cons, firstPiece_ascii hlf]
      rfl
    rw [decodeLossy_append hcr, hfeed]
    exact .both (hnotLf hlfLine) (hnotCr hcrLine) ih
  | carriageReturn hlfLine hcrLine hbehind hrest ih =>
    rw [decodeLossy_append hcr]
    refine .carriageReturn (hnotLf hlfLine) (hnotCr hcrLine) ?_ ih
    intro hhead
    exact hbehind (head?_of_head?_decodeLossy hlf rfl hhead)

/-- The lines of the decoded text are the lines of the bytes, each decoded on its own. -/
theorem lines_decodeLossy (bytes : List UInt8) :
    lines (decodeLossy bytes) = (cutLines 10 13 bytes).map decodeLossy :=
  (lines_cutLines 10 13 bytes).decodeLossy.cutLines_eq (by decide)

end LineCalc.Text
