import SshConfig.Query

namespace SshConfig.TokenTable

/-! How a text with tokens is read.

A text is cut from the left into characters that stand for themselves, pairs of a percent sign and
the character after it, and perhaps a percent sign alone at the end.  There is one way to do so.
Only pairs are replaced, each for itself, so what a value holds is never read and never joins with
what stands around it.  A text that leaves no percent sign alone is read apart from what follows.
Whether it leaves one is told from how many it ends with.
-/

/-- A piece that a text is cut into. -/
inductive Piece where
  /-- A character other than a percent sign. -/
  | plain (c : Char)
  /-- A percent sign and the character after it, which may be another one. -/
  | pair (key : Char)
  /-- A percent sign that the text ends with. -/
  | lone
deriving DecidableEq, Repr

namespace Piece

def text : Piece → Text
  | .plain c => [c]
  | .pair key => ['%', key]
  | .lone => ['%']

/-- What a piece becomes: the value of a pair if the table has one, and the piece as it stands
otherwise. -/
def replaced (table : TokenTable) (piece : Piece) : Text :=
  match piece with
  | .pair key => (table.lookup key).getD piece.text
  | .plain _ | .lone => piece.text

end Piece

/-- Whether a text is cut into the pieces, from the left. -/
inductive Reads : Text → List Piece → Prop where
  | nothing : Reads [] []
  | plain (other : c ≠ '%') (later : Reads rest pieces) : Reads (c :: rest) (.plain c :: pieces)
  | pair (later : Reads rest pieces) : Reads ('%' :: key :: rest) (.pair key :: pieces)
  | lone : Reads ['%'] [.lone]

/-- How many percent signs a text ends with. -/
def percentsAtEnd (text : Text) : Nat :=
  (text.reverse.takeWhile (· == '%')).length

theorem exists_reads : ∀ text : Text, ∃ pieces, Reads text pieces
  | [] => ⟨[], .nothing⟩
  | [c] => by
      by_cases percent : c = '%'
      · subst percent
        exact ⟨[.lone], .lone⟩
      · exact ⟨[.plain c], .plain percent .nothing⟩
  | c :: key :: rest => by
      by_cases percent : c = '%'
      · subst percent
        obtain ⟨pieces, later⟩ := exists_reads rest
        exact ⟨.pair key :: pieces, .pair later⟩
      · obtain ⟨pieces, later⟩ := exists_reads (key :: rest)
        exact ⟨.plain c :: pieces, .plain percent later⟩

variable {text rest : Text} {pieces others : List Piece}

namespace Reads

theorem unique (reads : Reads text pieces) (again : Reads text others) : others = pieces := by
  induction reads generalizing others with
  | nothing =>
      cases again
      rfl
  | plain other later ih =>
      cases again with
      | plain _ same => rw [ih same]
      | pair | lone => exact absurd rfl other
  | pair later ih =>
      cases again with
      | plain other => exact absurd rfl other
      | pair same => rw [ih same]
  | lone =>
      cases again with
      | plain other => exact absurd rfl other
      | lone => rfl

theorem text_eq (reads : Reads text pieces) : pieces.flatMap Piece.text = text := by
  induction reads with
  | nothing | lone => rfl
  | plain _ _ ih | pair _ ih => simp [Piece.text, ih]

theorem expand_eq (reads : Reads text pieces) (table : TokenTable) :
    table.expand text = pieces.flatMap (Piece.replaced table) := by
  induction reads with
  | nothing | lone => rfl
  | @plain c rest pieces other later ih =>
      have step : table.expand (c :: rest) = c :: table.expand rest := by simp [expand, other]
      rw [step, ih]
      rfl
  | pair later ih =>
      rw [expand, ih]
      rfl

theorem append (reads : Reads text pieces) (complete : .lone ∉ pieces)
    (later : Reads rest others) : Reads (text ++ rest) (pieces ++ others) := by
  induction reads with
  | nothing => exact later
  | plain other _ ih => exact .plain other (ih fun lone => complete (.tail _ lone))
  | pair _ ih => exact .pair (ih fun lone => complete (.tail _ lone))
  | lone => exact absurd List.mem_cons_self complete

/-- A text that leaves no percent sign alone is expanded apart from what follows. -/
theorem expand_append (reads : Reads text pieces) (complete : .lone ∉ pieces) (table : TokenTable)
    (rest : Text) : table.expand (text ++ rest) = table.expand text ++ table.expand rest := by
  obtain ⟨others, later⟩ := exists_reads rest
  rw [(reads.append complete later).expand_eq, reads.expand_eq, later.expand_eq,
    List.flatMap_append]

theorem expand_eq_self (reads : Reads text pieces) {table : TokenTable}
    (unknown : ∀ key, .pair key ∈ pieces → table.lookup key = none) : table.expand text = text := by
  have kept : ∀ piece ∈ pieces, piece.replaced table = piece.text := by
    intro piece member
    cases piece with
    | plain c | lone => rfl
    | pair key => simp [Piece.replaced, unknown key member]
  rw [reads.expand_eq, List.flatMap_def, List.map_congr_left kept, ← List.flatMap_def,
    reads.text_eq]

end Reads

theorem expand_of_plain (table : TokenTable) (plain : '%' ∉ text) : table.expand text = text := by
  obtain ⟨pieces, reads⟩ := exists_reads text
  refine reads.expand_eq_self fun key member => ?_
  have percent : '%' ∈ pieces.flatMap Piece.text :=
    List.mem_flatMap.mpr ⟨.pair key, member, List.mem_cons_self⟩
  rw [reads.text_eq] at percent
  exact absurd percent plain

theorem percentsAtEnd_append (front rest : Text) :
    percentsAtEnd (front ++ rest) = percentsAtEnd rest ∨
      percentsAtEnd (front ++ rest) = percentsAtEnd rest + percentsAtEnd front := by
  unfold percentsAtEnd
  rw [List.reverse_append, List.takeWhile_append]
  split
  · rename_i all
    rw [List.length_append, all]
    exact .inr rfl
  · exact .inl rfl

/-- A percent sign is left alone exactly if their number at the end is odd: behind any other
character the reading begins anew, whether it belongs to a pair or not. -/
theorem Reads.complete_iff (reads : Reads text pieces) :
    .lone ∉ pieces ↔ percentsAtEnd text % 2 = 0 := by
  induction reads with
  | nothing => simp [percentsAtEnd]
  | @plain c rest pieces other later ih =>
      have none : percentsAtEnd [c] = 0 := by simp [percentsAtEnd, other]
      have counted := percentsAtEnd_append [c] rest
      have same : percentsAtEnd (c :: rest) = percentsAtEnd rest := by
        simpa [none] using counted
      simp [same, ← ih]
  | @pair rest pieces key later ih =>
      have even : percentsAtEnd ['%', key] % 2 = 0 := by
        by_cases percent : key = '%' <;> simp [percentsAtEnd, percent]
      have counted : percentsAtEnd ('%' :: key :: rest) = percentsAtEnd rest ∨
          percentsAtEnd ('%' :: key :: rest) = percentsAtEnd rest + percentsAtEnd ['%', key] :=
        percentsAtEnd_append ['%', key] rest
      have parity : percentsAtEnd ('%' :: key :: rest) % 2 = percentsAtEnd rest % 2 := by omega
      simp [parity, ← ih]
  | lone => simp [percentsAtEnd]

theorem lookup_ofQuery_percent (query : Query) (facts : LocalFacts) :
    (ofQuery query facts).lookup '%' = none := by
  cases user : query.user <;> simp [ofQuery, user]

theorem lookup_ofQuery_user (query : Query) (facts : LocalFacts) :
    (ofQuery query facts).lookup 'r' = query.user := by
  cases user : query.user <;>
  · rw [ofQuery, user]
    rfl

/-- A text is cut into pieces in one way, and expanding it replaces the pairs that the table has and
leaves all else.  So a pair behind a text that leaves no percent sign alone, and what follows the
pair, are expanded for themselves, and a text without such pairs stays as it is. -/
theorem expand_by_pieces (table : TokenTable) (text : Text) :
    (∃ pieces, Reads text pieces ∧ (∀ others, Reads text others → others = pieces) ∧
      table.expand text = pieces.flatMap (Piece.replaced table) ∧
      (.lone ∉ pieces ↔ percentsAtEnd text % 2 = 0) ∧
      (.lone ∉ pieces → ∀ key rest, table.expand (text ++ '%' :: key :: rest) =
        table.expand text ++ (Piece.pair key).replaced table ++ table.expand rest) ∧
      ((∀ key, .pair key ∈ pieces → table.lookup key = none) → table.expand text = text)) ∧
    ∀ query facts, (ofQuery query facts).expand "%%".toList = "%%".toList ∧
      (query.user = none → (ofQuery query facts).expand "%r".toList = "%r".toList) := by
  have kept (query : Query) (facts : LocalFacts) (key : Char)
      (unknown : (ofQuery query facts).lookup key = none) :
      (ofQuery query facts).expand ['%', key] = ['%', key] := by
    refine (Reads.pair .nothing).expand_eq_self fun other member => ?_
    obtain rfl : other = key := by simpa using member
    exact unknown
  constructor
  · obtain ⟨pieces, reads⟩ := exists_reads text
    refine ⟨pieces, reads, fun others => reads.unique, reads.expand_eq table, reads.complete_iff,
      fun complete key rest => ?_, reads.expand_eq_self⟩
    rw [reads.expand_append complete, List.append_assoc]
    rfl
  · intro query facts
    exact ⟨kept query facts '%' (lookup_ofQuery_percent query facts), fun stranger =>
      kept query facts 'r' ((lookup_ofQuery_user query facts).trans stranger)⟩

/-- The value of the first pair ends in a percent sign and holds the other token.  In the second
text the only known character is in no pair. -/
theorem expand_by_pieces_percents :
    let table : TokenTable := [('h', "%n%".toList), ('n', "x".toList)]
    let pieces : List Piece := [.pair 'h', .pair '%']
    let others : List Piece := [.pair '%', .plain 'h', .pair 'z', .lone]
    Reads "%h%%".toList pieces ∧ .lone ∉ pieces ∧
      table.expand "%h%%%nn%".toList = "%n%%%xn%".toList ∧
      Reads "%%h%z%".toList others ∧ (∀ key, .pair key ∈ others → table.lookup key = none) ∧
      table.expand "%%h%z%".toList = "%%h%z%".toList ∧
      (ofQuery { host := "%h".toList } {}).expand "%r".toList = "%r".toList := by
  intro table pieces others
  have reads : Reads "%h%%".toList pieces := .pair (.pair .nothing)
  have readsOthers : Reads "%%h%z%".toList others :=
    .pair (.plain (by decide) (.pair .lone))
  have complete : .lone ∉ pieces := by decide
  have unknown : ∀ key, .pair key ∈ others → table.lookup key = none := by
    intro key member
    have one : key = '%' ∨ key = 'z' := by simpa [others] using member
    rcases one with rfl | rfl <;> rfl
  obtain ⟨⟨found, -, unique, -, -, behind, -⟩, queries⟩ := expand_by_pieces table "%h%%".toList
  obtain ⟨⟨again, -, uniqueAgain, -, -, -, same⟩, -⟩ := expand_by_pieces table "%%h%z%".toList
  obtain rfl := unique _ reads
  obtain rfl := uniqueAgain _ readsOthers
  exact ⟨reads, complete, behind complete 'n' "n%".toList, readsOthers, unknown, same unknown,
    (queries { host := "%h".toList } {}).2 rfl⟩

end SshConfig.TokenTable
