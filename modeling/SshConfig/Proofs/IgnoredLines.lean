import SshConfig.Proofs.ByteLines
import SshConfig.Proofs.Separators

namespace SshConfig

/-! Lines that are passed over.

Such a line can be inserted anywhere in a file.  The lines behind it are then found one line further
down, wherever the file is included, and nothing else changes.
-/

/-- White space, comments, and lines with a keyword that is not known, whatever stands behind it. -/
inductive Ignored : Text → Prop where
  | blank (blank : Text.AllBlank text) : Ignored text
  | comment (indented : Text.AllBlank before) : Ignored (before ++ '#' :: rest)
  | unknown (indented : Text.AllBlank before) (filled : word ≠ [])
      (letters : ∀ c ∈ word, Text.isWordChar c = true)
      (other : ∀ keyword : Keyword, Text.sameLetters keyword.name.toList word = false)
      (apart : ∀ c ∈ rest.head?, Text.isBlank c = true ∨ c = '=') :
      Ignored (before ++ (word ++ rest))

theorem Ignored.ofLine_eq {line : Text} (ignored : Ignored line) :
    Directive.ofLine line = .ok none := by
  cases ignored with
  | blank blank =>
      have nothing : Text.trim line = Text.trim [] := Text.trim_append_blank [] blank
      rw [Directive.ofLine, Line.read_of_trim_eq nothing]
      rfl
  | @comment before rest indented =>
      have sign : Text.trim (before ++ '#' :: rest) = '#' :: Text.trimEnd rest := by
        have started : Text.trimStart ('#' :: rest) = '#' :: rest :=
          List.dropWhile_cons_of_neg (by decide)
        rw [Text.trim, Text.trimStart_append_of_blank indented, started, Text.trimEnd_cons,
          if_neg (by simp [Text.isBlank])]
      simp only [Directive.ofLine, Line.read, sign]
  | @unknown before word rest indented filled letters other apart =>
      have unknown : Keyword.ofWord? word = none := by
        rw [Keyword.ofWord?, List.find?_eq_none]
        intro keyword _
        simp [other keyword]
      rw [Directive.ofLine, Line.read_word filled letters apart indented, Line.ofParts, unknown]

/-- The numbers of lines when the lines of one file are one further down from a position on. -/
def movedDown (path : Path) (position : Nat) (source : Text) (number : Nat) : Nat :=
  if source = path ∧ position ≤ number then number + 1 else number

theorem requestsFrom_inserted (path : Path) (before after : List Text) {line : Text}
    (nothing : Directive.ofLine line = .ok none) :
    requestsFrom 1 (before ++ line :: after) =
      (requestsFrom 1 (before ++ after)).map
        (Request.renumbered (movedDown path (before.length + 1) path)) := by
  have still : requestsFrom 1 before = (requestsFrom 1 before).map
      (Request.renumbered (movedDown path (before.length + 1) path)) := by
    refine requestsFrom_renumbered _ 0 1 before fun index within => ?_
    rw [movedDown, if_neg (by omega), Nat.add_zero]
  have moved : requestsFrom (1 + before.length + 1) after =
      (requestsFrom (1 + before.length) after).map
        (Request.renumbered (movedDown path (before.length + 1) path)) := by
    refine requestsFrom_renumbered _ 1 (1 + before.length) after fun index within => ?_
    rw [movedDown, if_pos ⟨rfl, by omega⟩]
  rw [requestsFrom_append, requestsFrom_append, requestsFrom, nothing, List.map_append, ← still,
    ← moved]

theorem asksAlike_inserted {files : FileSystem} {path : Path} {before after : List Bytes}
    {line : Bytes} (content : files path = .ok (Bytes.ofLines (before ++ after)))
    (oneLine : ∀ line ∈ before ++ after, 10 ∉ line) (noFeed : 10 ∉ line)
    (ignored : Ignored (Text.decode line)) (other : Path) :
    AsksAlike (movedDown path (before.length + 1) other) (files.text other)
      (FileSystem.text
        (Function.update files path (.ok (Bytes.ofLines (before ++ line :: after)))) other) := by
  -- the numbers are moved in one file, and stay as they are in all others
  by_cases here : other = path
  · subst here
    have read : files.text other = .ok (Text.decode (Bytes.ofLines (before ++ after))) := by
      rw [FileSystem.text, content]
      rfl
    obtain ⟨earlier, later⟩ := List.forall_mem_append.mp oneLine
    have oneLineToo : ∀ another ∈ before ++ line :: after, 10 ∉ another :=
      List.forall_mem_append.mpr ⟨earlier, List.forall_mem_cons.mpr ⟨noFeed, later⟩⟩
    rw [read, FileSystem.text, Function.update_self]
    refine .readable ?_
    have inserted := requestsFrom_inserted other (before.map Text.decode) (after.map Text.decode)
      ignored.ofLine_eq
    rw [List.length_map] at inserted
    rw [requests_decode_ofLines (Text.feed_not_mem_decode_lines oneLine),
      requests_decode_ofLines (Text.feed_not_mem_decode_lines oneLineToo), List.map_append,
      List.map_append, List.map_cons, inserted]
  · have numbering : movedDown path (before.length + 1) other = fun number => number := by
      funext number
      simp [movedDown, here]
    rw [numbering, FileSystem.text, FileSystem.text, Function.update_of_ne here]
    exact .refl _

/-- A line that is passed over can be inserted anywhere in any file.  It moves down the lines behind
it, and nothing else. -/
theorem parseFile_inserted {files : FileSystem} {path : Path} {before after : List Bytes}
    {line : Bytes} (content : files path = .ok (Bytes.ofLines (before ++ after)))
    (oneLine : ∀ line ∈ before ++ after, 10 ∉ line) (noFeed : 10 ∉ line)
    (ignored : Ignored (Text.decode line)) (home : Homes) (top : Path) :
    parseFile
        ⟨Function.update files path (.ok (Bytes.ofLines (before ++ line :: after))), home⟩ top =
      renumberResult (movedDown path (before.length + 1)) top (parseFile ⟨files, home⟩ top) := by
  let surroundings : Surroundings := ⟨files, home⟩
  have alike (other : Path) :
      AsksAlike (movedDown path (before.length + 1) other) (surroundings.files.text other)
        (FileSystem.text
          (Function.update files path (.ok (Bytes.ofLines (before ++ line :: after)))) other) :=
    asksAlike_inserted content oneLine noFeed ignored other
  exact parseFile_renumbered alike top

/-- A line of an included file fails one line further down.  The line above it is passed over, though
its quotation mark would be an error behind a known keyword. -/
theorem parseFile_inserted_included :
    let files : FileSystem := fun path =>
      if path = "/c".toList then .ok (Text.encode "\nInclude /i".toList)
      else if path = "/i".toList then .ok (Text.encode "Host a\nPort x".toList)
      else .error .notFound
    let changed := Text.encode "Host a\nFoo=\"b\nPort x".toList
    parseFile ⟨files, {}⟩ "/c".toList =
        .error ⟨[.line 2, .file "/i".toList, .line 2], .notANumber .port⟩ ∧
      parseFile ⟨Function.update files "/i".toList (.ok changed), {}⟩ "/c".toList =
        .error ⟨[.line 2, .file "/i".toList, .line 3], .notANumber .port⟩ := by
  intro files changed
  let host : Bytes := Text.encode "Host a".toList
  let port : Bytes := Text.encode "Port x".toList
  let line : Bytes := Text.encode "Foo=\"b".toList
  have failed : parseFile ⟨files, {}⟩ "/c".toList =
      .error ⟨[.line 2, .file "/i".toList, .line 2], .notANumber .port⟩ := rfl
  have content : files "/i".toList = .ok (Bytes.ofLines ([host] ++ [port])) := rfl
  have oneLine : ∀ line ∈ [host] ++ [port], 10 ∉ line := by decide
  have ignored : Ignored (Text.decode line) := by
    have parts : Text.decode line = [] ++ ("Foo".toList ++ "=\"b".toList) := rfl
    have letters : ∀ c ∈ "Foo".toList, Text.isWordChar c = true := List.all_eq_true.mp rfl
    rw [parts]
    refine .unknown Text.allBlank_nil (by decide) letters ?_ ?_
    · intro keyword
      cases keyword <;> rfl
    · rintro _ ⟨⟩
      exact .inr rfl
  refine ⟨failed, ?_⟩
  have moved := parseFile_inserted content oneLine (by decide) ignored {} "/c".toList
  rw [failed] at moved
  exact moved

-- Blocks of other files stay where they are.
example :
    let block (source : Text) (line : Nat) : Block := ⟨.host [], ⟨source, line⟩, {}⟩
    renumberResult (movedDown ['i'] 2) ['c']
        (.ok { blocks := [block ['i'] 1, block ['i'] 2, block ['c'] 2], source := ['c'] }) =
      .ok { blocks := [block ['i'] 1, block ['i'] 3, block ['c'] 2], source := ['c'] } := rfl

end SshConfig
