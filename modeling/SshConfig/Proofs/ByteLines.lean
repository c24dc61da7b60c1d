import SshConfig.Proofs.ArgumentGrammar
import SshConfig.Proofs.Renumbering
import Mathlib.Tactic.FinCases

namespace SshConfig

/-! Lines of a file before it is decoded.

A byte that does not go on with an encoding ends it, however short it is then.  So a line feed is
decoded to a line feed whatever stands before it, nothing else is decoded to one, and a file can be
cut into lines before it is decoded.  In the same way white space at an end of a line is decoded by
itself, also where the line is not valid.
-/

namespace Text

/-- What holds of every encoding that has begun: only bytes from `0x80` to `0xBF` go on with it, and
it is not the encoding of a character below `0x80`. -/
structure Unfinished.Sound (encoding : Unfinished) : Prop where
  low : 0x80 ≤ encoding.low.toNat
  high : encoding.high.toNat ≤ 0xBF
  -- where nothing but zeros was read, the next byte has other bits
  value : 1 ≤ encoding.value ∨ 0x90 ≤ encoding.low.toNat
  -- so the last byte makes the number `0x80` or more
  last : encoding.missing ≤ 1 → 2 ≤ encoding.value

theorem startEncoding_sound {byte : UInt8} {encoding : Unfinished}
    (begun : startEncoding byte = .unfinished encoding) : encoding.Sound := by
  simp only [startEncoding, UInt8.lt_iff_toNat_lt, beq_iff_eq, ← UInt8.toNat_inj] at begun
  repeat' split at begun
  all_goals cases begun
  all_goals constructor <;> simp at * <;> omega

theorem Unfinished.Sound.continueWith {encoding longer : Unfinished} {byte : UInt8}
    (sound : encoding.Sound) (continued : encoding.continueWith byte = .unfinished longer) :
    longer.Sound := by
  obtain ⟨low, high, value, last⟩ := sound
  simp only [Unfinished.continueWith, UInt8.le_iff_toNat_le, Bool.and_eq_true,
    decide_eq_true_eq] at continued
  repeat' split at continued
  all_goals cases continued
  constructor <;> simp <;> omega

theorem Unfinished.Sound.continueWith_of_outside {encoding : Unfinished} {byte : UInt8}
    (sound : encoding.Sound) (outside : byte.toNat < 0x80 ∨ 0xC0 ≤ byte.toNat) :
    encoding.continueWith byte = .invalid := by
  obtain ⟨low, high, -, -⟩ := sound
  simp only [Unfinished.continueWith, UInt8.le_iff_toNat_le, Bool.and_eq_true, decide_eq_true_eq]
  rw [if_neg (by omega)]

theorem ofNat_ne_feed {code : Nat} (other : code ≠ 10) : Char.ofNat code ≠ '\n' := by
  intro feed
  by_cases valid : code.isValidChar
  · rw [Char.ofNat, dif_pos valid] at feed
    exact other (congrArg Char.toNat feed)
  · rw [Char.ofNat, dif_neg valid] at feed
    cases feed

theorem Unfinished.Sound.finished_ne_feed {encoding : Unfinished} {byte : UInt8} {c : Char}
    (sound : encoding.Sound) (finished : encoding.continueWith byte = .finished c) : c ≠ '\n' := by
  obtain ⟨low, high, value, last⟩ := sound
  simp only [Unfinished.continueWith, UInt8.le_iff_toNat_le, Bool.and_eq_true,
    decide_eq_true_eq] at finished
  repeat' split at finished
  all_goals cases finished
  apply ofNat_ne_feed
  omega

theorem startEncoding_ne_feed {byte : UInt8} {c : Char}
    (finished : startEncoding byte = .finished c) (other : byte ≠ 10) : c ≠ '\n' := by
  unfold startEncoding at finished
  repeat' split at finished
  all_goals cases finished
  apply ofNat_ne_feed
  exact fun code => other (UInt8.toNat_inj.mp code)

/-- A text whose first byte does not go on with an encoding is decoded by itself. -/
theorem decode_append (first : Bytes) {second : Bytes}
    (outside : ∀ byte ∈ second.head?, byte.toNat < 0x80 ∨ 0xC0 ≤ byte.toNat) :
    decode (first ++ second) = decode first ++ decode second ∧
      ∀ encoding : Unfinished, encoding.Sound →
        decodeWithin encoding (first ++ second) = decodeWithin encoding first ++ decode second := by
  -- the first text can end within an encoding, so both functions go through it together
  induction first with
  | nil =>
      refine ⟨rfl, fun encoding sound => ?_⟩
      cases second with
      | nil => rfl
      | cons byte rest =>
          have ended := sound.continueWith_of_outside (outside byte rfl)
          simp only [List.nil_append, decodeWithin, ended, decode]
          cases startEncoding byte <;> rfl
  | cons byte rest ih =>
      obtain ⟨between, within⟩ := ih
      constructor
      · simp only [List.cons_append, decode]
        cases begun : startEncoding byte with
        | finished c => simp only [between, List.cons_append]
        | invalid => simp only [between, List.cons_append]
        | unfinished encoding => exact within encoding (startEncoding_sound begun)
      · intro encoding sound
        simp only [List.cons_append, decodeWithin]
        cases continued : encoding.continueWith byte with
        | finished c => simp only [between, List.cons_append]
        | unfinished longer => exact within longer (sound.continueWith continued)
        | invalid =>
            cases begun : startEncoding byte with
            | finished c => simp only [between, List.cons_append]
            | invalid => simp only [between, List.cons_append]
            | unfinished other =>
                simp only [within other (startEncoding_sound begun), List.cons_append]

theorem feed_not_mem_decode {bytes : Bytes} (noFeed : 10 ∉ bytes) :
    '\n' ∉ decode bytes ∧
      ∀ encoding : Unfinished, encoding.Sound → '\n' ∉ decodeWithin encoding bytes := by
  have noReplacement : '\n' ≠ replacement := by decide
  induction bytes with
  | nil => simp [decode, decodeWithin, noReplacement]
  | cons byte rest ih =>
      obtain ⟨other, later⟩ : byte ≠ 10 ∧ 10 ∉ rest := by
        simpa [eq_comm] using noFeed
      obtain ⟨between, within⟩ := ih later
      have started : '\n' ∉ decode (byte :: rest) := by
        simp only [decode]
        cases begun : startEncoding byte with
        | finished c => simp [between, (startEncoding_ne_feed begun other).symm]
        | invalid => simp [between, noReplacement]
        | unfinished encoding => exact within encoding (startEncoding_sound begun)
      refine ⟨started, fun encoding sound => ?_⟩
      simp only [decodeWithin]
      cases continued : encoding.continueWith byte with
      | finished c => simp [between, (sound.finished_ne_feed continued).symm]
      | unfinished longer => exact within longer (sound.continueWith continued)
      | invalid =>
          simp only [decode] at started
          cases begun : startEncoding byte with
          | finished c => simp [between, noReplacement, (startEncoding_ne_feed begun other).symm]
          | invalid => simp [between, noReplacement]
          | unfinished other =>
              simp [within other (startEncoding_sound begun), noReplacement]

theorem feed_not_mem_decode_lines {lines : List Bytes} (oneLine : ∀ line ∈ lines, 10 ∉ line) :
    ∀ line ∈ lines, '\n' ∉ decode line :=
  fun line member => (feed_not_mem_decode (oneLine line member)).1

/-- A text as bytes. -/
def encode (text : Text) : Bytes :=
  text.flatMap String.utf8EncodeChar

theorem isBlank_code {c : Char} (blank : isBlank c = true) :
    c.toNat ∈ [0x09, 0x0A, 0x0B, 0x0C, 0x0D, 0x20, 0x85, 0xA0, 0x1680, 0x2000, 0x2001, 0x2002,
      0x2003, 0x2004, 0x2005, 0x2006, 0x2007, 0x2008, 0x2009, 0x200A, 0x2028, 0x2029, 0x202F,
      0x205F, 0x3000] := by
  simp only [isBlank, Bool.or_eq_true, Bool.and_eq_true, decide_eq_true_eq, beq_iff_eq] at blank
  simp only [List.mem_cons, List.not_mem_nil, or_false]
  omega

/-- White space is decoded by itself, and its first byte does not go on with an encoding. -/
theorem decode_encodeChar {c : Char} (blank : isBlank c = true) (rest : Bytes) :
    decode (String.utf8EncodeChar c ++ rest) = c :: decode rest ∧
      ∀ byte ∈ (String.utf8EncodeChar c ++ rest).head?, byte.toNat < 0x80 ∨ 0xC0 ≤ byte.toNat := by
  have codes := isBlank_code blank
  rw [← Char.ofNat_toNat c]
  generalize c.toNat = code at codes
  fin_cases codes <;> refine ⟨rfl, ?_⟩ <;> rintro _ ⟨⟩ <;> decide

theorem decode_encode_append {before : Text} (blank : AllBlank before) (rest : Bytes) :
    decode (encode before ++ rest) = before ++ decode rest := by
  induction before with
  | nil => rfl
  | cons c before ih =>
      have others : AllBlank before := fun d member => blank d (.tail _ member)
      have cut : encode (c :: before) ++ rest =
          String.utf8EncodeChar c ++ (encode before ++ rest) := by
        simp [encode]
      rw [cut, (decode_encodeChar (blank c (.head _)) _).1, ih others, List.cons_append]

/-- White space around a line is decoded by itself, also where the line is not valid. -/
theorem decode_surrounded {before after : Text} (first : AllBlank before) (last : AllBlank after)
    (line : Bytes) :
    decode (encode before ++ line ++ encode after) = before ++ decode line ++ after := by
  have behind : decode (line ++ encode after) = decode line ++ decode (encode after) := by
    refine (decode_append line ?_).1
    cases after with
    | nil => simp [encode]
    | cons c after =>
        have starts := (decode_encodeChar (last c (.head _)) (encode after)).2
        simpa only [encode, List.flatMap_cons] using starts
  have ending : decode (encode after) = after := by
    simpa [decode] using decode_encode_append last []
  rw [List.append_assoc, decode_encode_append first, behind, ending, List.append_assoc]

end Text

/-- A file with the given lines, between which there is a line feed each. -/
def Bytes.ofLines (lines : List Bytes) : Bytes :=
  [10].intercalate lines

/-- Every file has lines. -/
theorem Bytes.exists_ofLines (content : Bytes) :
    ∃ lines, lines ≠ [] ∧ (∀ line ∈ lines, 10 ∉ line) ∧ content = ofLines lines := by
  induction content with
  | nil => exact ⟨[[]], by simp, by simp, rfl⟩
  | cons byte rest ih =>
      obtain ⟨lines, filled, oneLine, rfl⟩ := ih
      obtain ⟨line, others, rfl⟩ := List.exists_cons_of_ne_nil filled
      by_cases feed : byte = 10
      · exact ⟨[] :: line :: others, by simp, List.forall_mem_cons.mpr ⟨by simp, oneLine⟩,
          by simp [ofLines, feed]⟩
      · obtain ⟨here, later⟩ := List.forall_mem_cons.mp oneLine
        refine ⟨(byte :: line) :: others, by simp, ?_, by cases others <;> simp [ofLines]⟩
        exact List.forall_mem_cons.mpr ⟨by simp [Ne.symm feed, here], later⟩

theorem Bytes.ofLines_singleton (line : Bytes) : ofLines [line] = line := by
  simp [ofLines]

theorem Bytes.ofLines_cons_cons (line next : Bytes) (others : List Bytes) :
    ofLines (line :: next :: others) = line ++ 10 :: ofLines (next :: others) := by
  simp [ofLines]

theorem splitAll_decode_ofLines {lines : List Bytes} (filled : lines ≠ [])
    (oneLine : ∀ line ∈ lines, '\n' ∉ Text.decode line) :
    Text.splitAll '\n' (Text.decode (Bytes.ofLines lines)) = lines.map Text.decode := by
  induction lines with
  | nil => exact absurd rfl filled
  | cons line rest ih =>
      obtain ⟨noFeed, later⟩ := List.forall_mem_cons.mp oneLine
      cases rest with
      | nil =>
          rw [Bytes.ofLines_singleton, Text.splitAll_of_not_mem noFeed]
          rfl
      | cons next others =>
          have decoded : Text.decode (line ++ 10 :: Bytes.ofLines (next :: others)) =
              Text.decode line ++ '\n' :: Text.decode (Bytes.ofLines (next :: others)) :=
            (Text.decode_append line (by simp)).1
          rw [Bytes.ofLines_cons_cons, decoded, Text.splitAll_append,
            Text.splitAll_of_not_mem noFeed, ih (List.cons_ne_nil _ _) later]
          rfl

/-- A file asks for what its lines ask for. -/
theorem requests_decode_ofLines {lines : List Bytes}
    (oneLine : ∀ line ∈ lines, '\n' ∉ Text.decode line) :
    requests (Text.decode (Bytes.ofLines lines)) = requestsFrom 1 (lines.map Text.decode) := by
  cases lines with
  | nil => rfl
  | cons line rest =>
      rw [requests_eq, splitAll_decode_ofLines (List.cons_ne_nil _ _) oneLine]

end SshConfig
