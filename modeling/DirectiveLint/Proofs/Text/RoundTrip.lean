import DirectiveLint.FileTree.ReadText

/-!
# Writing and reading texts

The bytes that a text is written as are read as the same text, provided that it
holds no carriage return: reading turns those into line feeds.  A text that was
read holds none.
-/

namespace DirectiveLint
namespace Text

/-! ## Bytes -/

/-- A byte below 128 is a character by itself. -/
theorem decodeUtf8From_single {byte : UInt8} (small : byte.toNat < 0x80) (offset : Nat)
    (rest : List UInt8) :
    decodeUtf8From offset none (byte :: rest) =
      (decodeUtf8From (offset + 1) none rest).map (Char.ofNat byte.toNat :: ·) := by
  have start : utf8Start? byte.toNat = some (0, byte.toNat, 0, 0) := by
    rw [utf8Start?, if_pos small]
  rw [decodeUtf8From, start]
  rfl

theorem decodeUtf8From_start {byte : UInt8} {missing code least greatest : Nat}
    (start : utf8Start? byte.toNat = some (missing + 1, code, least, greatest)) (offset : Nat)
    (rest : List UInt8) :
    decodeUtf8From offset none (byte :: rest) =
      decodeUtf8From (offset + 1)
        (some ⟨byte, offset, 1, missing + 1, code, least, greatest⟩) rest := by
  rw [decodeUtf8From, start]
  rfl

/-- A continuation byte within the bounds adds its share of the number. -/
theorem decodeUtf8From_continue {started : Utf8Pending} {share : Nat} (isShare : share < 64)
    (least : started.least ≤ share + 0x80) (greatest : share + 0x80 ≤ started.greatest)
    (offset : Nat) (rest : List UInt8) :
    decodeUtf8From offset (some started) (UInt8.ofNat (share + 0x80) :: rest) =
      if started.missing ≤ 1 then
        (decodeUtf8From (offset + 1) none rest).map
          (Char.ofNat (started.code * 64 + share) :: ·)
      else
        decodeUtf8From (offset + 1)
          (some
            { started with
              length := started.length + 1
              missing := started.missing - 1
              code := started.code * 64 + share
              least := 0x80
              greatest := 0xBF }) rest := by
  have byte : (UInt8.ofNat (share + 0x80)).toNat = share + 0x80 := by
    rw [UInt8.toNat_ofNat']
    omega
  have within : ¬((share + 0x80 < started.least || started.greatest < share + 0x80) = true) := by
    simp only [Bool.or_eq_true, decide_eq_true_eq]
    omega
  simp only [decodeUtf8From, byte, if_neg within, Nat.add_sub_cancel]

/-! The start byte of a character announces its share of the number, and how many bytes are to come.
The narrower bounds admit the second byte, as the number has that length and is no surrogate. -/

theorem utf8Start?_double {code : Nat} (least : 0x7f < code) (greatest : code ≤ 0x7ff) :
    utf8Start? (UInt8.ofNat (code / 64 % 32 + 0xc0)).toNat = some (1, code / 64, 0x80, 0xBF) := by
  have byte : (UInt8.ofNat (code / 64 % 32 + 0xc0)).toNat = code / 64 + 0xc0 := by
    rw [UInt8.toNat_ofNat']
    omega
  rw [byte, utf8Start?, if_neg (by omega), if_neg (by omega), if_pos (by omega),
    Nat.add_sub_cancel]

theorem utf8Start?_triple {code : Nat} (least : 0x7ff < code) (greatest : code ≤ 0xffff)
    (noSurrogate : code < 0xd800 ∨ 0xdfff < code) :
    ∃ low high, utf8Start? (UInt8.ofNat (code / 4096 % 16 + 0xe0)).toNat =
        some (2, code / 4096, low, high) ∧
      low ≤ code / 64 % 64 + 0x80 ∧ code / 64 % 64 + 0x80 ≤ high := by
  have byte : (UInt8.ofNat (code / 4096 % 16 + 0xe0)).toNat = code / 4096 + 0xe0 := by
    rw [UInt8.toNat_ofNat']
    omega
  rw [byte, utf8Start?, if_neg (by omega), if_neg (by omega), if_neg (by omega),
    if_pos (by omega), Nat.add_sub_cancel]
  refine ⟨_, _, rfl, ?_, ?_⟩
  · split <;> omega
  · split <;> omega

theorem utf8Start?_quadruple {code : Nat} (least : 0xffff < code) (greatest : code < 0x110000) :
    ∃ low high, utf8Start? (UInt8.ofNat (code / 262144 % 8 + 0xf0)).toNat =
        some (3, code / 262144, low, high) ∧
      low ≤ code / 4096 % 64 + 0x80 ∧ code / 4096 % 64 + 0x80 ≤ high := by
  have byte : (UInt8.ofNat (code / 262144 % 8 + 0xf0)).toNat = code / 262144 + 0xf0 := by
    rw [UInt8.toNat_ofNat']
    omega
  rw [byte, utf8Start?, if_neg (by omega), if_neg (by omega), if_neg (by omega),
    if_neg (by omega), if_pos (by omega), Nat.add_sub_cancel]
  refine ⟨_, _, rfl, ?_, ?_⟩
  · split <;> omega
  · split <;> omega

/-- The bytes of a character are read as the character. -/
theorem decodeUtf8From_encodeChar (character : Char) (offset : Nat) (rest : List UInt8) :
    ∃ next, decodeUtf8From offset none (String.utf8EncodeChar character ++ rest) =
      (decodeUtf8From next none rest).map (character :: ·) := by
  have valid : character.val.toNat < 0xd800 ∨
      0xdfff < character.val.toNat ∧ character.val.toNat < 0x110000 := character.valid
  have whole : Char.ofNat character.val.toNat = character := Char.ofNat_toNat character
  unfold String.utf8EncodeChar
  generalize character.val.toNat = code at valid whole ⊢
  dsimp only
  by_cases single : code ≤ 0x7f
  · have byte : (UInt8.ofNat code).toNat = code := by
      rw [UInt8.toNat_ofNat']
      omega
    rw [if_pos single, List.singleton_append, decodeUtf8From_single (by omega), byte, whole]
    exact ⟨_, rfl⟩
  rw [if_neg single]
  by_cases double : code ≤ 0x7ff
  · have parts : code / 64 * 64 + code % 64 = code := by omega
    rw [if_pos double, List.cons_append,
      decodeUtf8From_start (utf8Start?_double (by omega) double), List.singleton_append,
      decodeUtf8From_continue (by omega) (by simp) (by simp; omega), if_pos (by simp)]
    simp only [parts, whole]
    exact ⟨_, rfl⟩
  rw [if_neg double]
  by_cases triple : code ≤ 0xffff
  · rcases utf8Start?_triple (by omega) triple (by omega) with ⟨low, high, start, least, greatest⟩
    have parts : (code / 4096 * 64 + code / 64 % 64) * 64 + code % 64 = code := by omega
    rw [if_pos triple, List.cons_append, decodeUtf8From_start start, List.cons_append,
      decodeUtf8From_continue (by omega) least greatest, if_neg (by simp), List.singleton_append,
      decodeUtf8From_continue (by omega) (by simp) (by simp; omega), if_pos (by simp)]
    simp only [parts, whole]
    exact ⟨_, rfl⟩
  · have large : 0xffff < code := by omega
    rcases utf8Start?_quadruple large (by omega) with ⟨low, high, start, least, greatest⟩
    have parts : ((code / 262144 * 64 + code / 4096 % 64) * 64 + code / 64 % 64) * 64 +
        code % 64 = code := by omega
    rw [if_neg triple, List.cons_append, decodeUtf8From_start start, List.cons_append,
      decodeUtf8From_continue (by omega) least greatest, if_neg (by simp), List.cons_append,
      decodeUtf8From_continue (by omega) (by simp) (by simp; omega), if_neg (by simp),
      List.singleton_append,
      decodeUtf8From_continue (by omega) (by simp) (by simp; omega), if_pos (by simp)]
    simp only [parts, whole]
    exact ⟨_, rfl⟩

theorem decodeUtf8From_flatMap (text : List Char) (offset : Nat) :
    decodeUtf8From offset none (text.flatMap String.utf8EncodeChar) = .ok text := by
  induction text generalizing offset with
  | nil => rfl
  | cons character rest inductionHypothesis =>
      rcases decodeUtf8From_encodeChar character offset (rest.flatMap String.utf8EncodeChar) with
        ⟨next, here⟩
      rw [List.flatMap_cons, here, inductionHypothesis next]
      rfl

/-- The bytes of a text are read as the text. -/
theorem decodeUtf8_encodeUtf8 (text : String) : decodeUtf8 (encodeUtf8 text) = .ok text := by
  rw [decodeUtf8, encodeUtf8, decodeUtf8From_flatMap]
  exact congrArg Except.ok String.ofList_toList

/-! ## Line endings -/

theorem not_mem_normalizeFrom (afterReturn : Bool) (text : List Char) :
    '\r' ∉ normalizeFrom afterReturn text := by
  induction text generalizing afterReturn with
  | nil => simp [normalizeFrom]
  | cons character rest inductionHypothesis =>
      unfold normalizeFrom
      by_cases isReturn : character = '\r'
      · simp [isReturn, inductionHypothesis]
      · rw [if_neg isReturn]
        split
        · exact inductionHypothesis false
        · simp [inductionHypothesis, Ne.symm isReturn]

theorem normalizeFrom_of_not_mem {text : List Char} (noReturn : '\r' ∉ text) :
    normalizeFrom false text = text := by
  induction text with
  | nil => rfl
  | cons character rest inductionHypothesis =>
      rw [List.mem_cons, not_or] at noReturn
      simp [normalizeFrom, Ne.symm noReturn.1, inductionHypothesis noReturn.2]

end Text

namespace FileTree

/-- A text that was read holds no carriage return. -/
theorem not_mem_of_textOf {bytes : List UInt8} {text : String} (read : textOf bytes = .ok text) :
    '\r' ∉ text.toList := by
  unfold textOf at read
  cases decoded : Text.decodeUtf8 bytes with
  | error fault =>
      rw [decoded] at read
      cases read
  | ok found =>
      rw [decoded] at read
      cases read
      rw [Text.normalizeLines, String.toList_ofList]
      exact Text.not_mem_normalizeFrom false found.toList

/-- A text without carriage returns is read as it was written. -/
theorem textOf_encodeUtf8 {text : String} (noReturn : '\r' ∉ text.toList) :
    textOf (Text.encodeUtf8 text) = .ok text := by
  rw [textOf, Text.decodeUtf8_encodeUtf8]
  change Except.ok (String.ofList (Text.normalizeFrom false text.toList)) = _
  rw [Text.normalizeFrom_of_not_mem noReturn, String.ofList_toList]

end FileTree
end DirectiveLint
