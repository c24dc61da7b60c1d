import SshConfig.Path
import SshConfig.Proofs.Pieces
import Mathlib.Data.List.DropRight

namespace SshConfig.Path

/-! The directory of a file, as the components of its path tell it.

A path is a way from the root, or from where one stands, along names.  Slashes beside others and
single dots lead nowhere, and so a way can be written in many forms.  The directory of a path is what
is left when the last name is taken away, with nothing at its end that leads nowhere.
-/

/-- The names between the slashes of a text that lead somewhere. -/
def names (text : Text) : List Text :=
  (Text.splitAll '/' text).filter fun name => !isIdle name

/-- The components of a path: the root if it begins there, or a dot if it begins with that, and the
names that follow. -/
def components : Path → List Text
  | '/' :: rest => ['/'] :: names rest
  | ['.'] => [['.']]
  | '.' :: '/' :: rest => ['.'] :: names rest
  | path => names path

/-- The directory of a path is the shortest beginning of it with all of its components but the
last. -/
structure IsDirectoryOf (directory path : Path) : Prop where
  beginning : directory <+: path
  components_eq : components directory = (components path).dropLast
  shortest : ∀ other, other <+: path → components other = (components path).dropLast →
    directory.length ≤ other.length

theorem IsDirectoryOf.unique {directory other path : Path} (left : IsDirectoryOf directory path)
    (right : IsDirectoryOf other path) : directory = other := by
  have shorter := left.shortest other right.beginning right.components_eq
  have longer := right.shortest directory left.beginning left.components_eq
  have begins := List.prefix_of_prefix_length_le left.beginning right.beginning shorter
  exact begins.eq_of_length (Nat.le_antisymm shorter longer)

theorem names_append (first second : Text) :
    names (first ++ '/' :: second) = names first ++ names second := by
  rw [names, Text.splitAll_append, List.filter_append]
  rfl

theorem names_of_whole {name : Text} (whole : '/' ∉ name) :
    names name = if isIdle name then [] else [name] := by
  rw [names, Text.splitAll_of_not_mem whole]
  cases idle : isIdle name <;> simp [idle]

theorem names_slash (text : Text) : names ('/' :: text) = names text :=
  names_append [] text

theorem dot_not_mem_names (text : Text) : ['.'] ∉ names text := by
  simp [names, isIdle]

/-- What stands behind the last slash of a text is a text without slashes. -/
theorem eq_or_exists_last (text : Text) :
    '/' ∉ text ∨ ∃ before name, text = before ++ '/' :: name ∧ '/' ∉ name := by
  by_cases slash : '/' ∈ text
  · obtain ⟨after, before, reversed, whole⟩ :=
      List.eq_append_cons_of_mem (List.mem_reverse.mpr slash)
    refine .inr ⟨before.reverse, after.reverse, ?_, by simpa using whole⟩
    rw [← List.reverse_reverse text, reversed]
    simp
  · exact .inl slash

theorem names_length_snoc_whole {name : Text} {c : Char} (whole : '/' ∉ name) (other : c ≠ '/') :
    (names name).length ≤ (names (name ++ [c])).length := by
  have wholeToo : '/' ∉ name ++ [c] := by simp [whole, Ne.symm other]
  rw [names_of_whole whole, names_of_whole wholeToo]
  cases name with
  | nil => simp [isIdle]
  | cons first rest =>
      have leads : isIdle (first :: rest ++ [c]) = false := by simp [isIdle]
      rw [leads]
      split <;> simp

/-- A text that goes on has no fewer names. -/
theorem names_length_append (text more : Text) :
    (names text).length ≤ (names (text ++ more)).length := by
  induction more generalizing text with
  | nil => simp
  | cons c rest ih =>
      have step : (names text).length ≤ (names (text ++ [c])).length := by
        by_cases slash : c = '/'
        · rw [slash, names_append]
          simp
        · rcases eq_or_exists_last text with whole | ⟨before, name, rfl, whole⟩
          · exact names_length_snoc_whole whole slash
          · rw [List.append_assoc, List.cons_append, names_append, names_append]
            have last := names_length_snoc_whole whole slash
            simpa using last
      have later := ih (text ++ [c])
      rw [List.append_assoc, List.singleton_append] at later
      exact Nat.le_trans step later

/-- A text that ends in a name has other names than each shorter beginning of it. -/
theorem eq_of_names_eq_of_whole {text name : Text} (begins : text <+: name) (whole : '/' ∉ name)
    (leads : isIdle name = false) (same : names text = names name) : text = name := by
  have wholeToo : '/' ∉ text := fun slash => whole (begins.subset slash)
  rw [names_of_whole whole, names_of_whole wholeToo, leads] at same
  split at same
  · cases same
  · simpa using same

theorem eq_of_names_eq {text before name : Text} (begins : text <+: before ++ '/' :: name)
    (whole : '/' ∉ name) (leads : isIdle name = false)
    (same : names text = names (before ++ '/' :: name)) : text = before ++ '/' :: name := by
  have last : names name = [name] := by simp [names_of_whole whole, leads]
  -- where less than what is before the last slash is left, a name is missing
  have notBefore : ¬ text <+: before := by
    rintro ⟨more, rfl⟩
    have fewer := names_length_append text more
    have count := congrArg List.length same
    rw [names_append, last, List.length_append, List.length_singleton] at count
    omega
  obtain ⟨more, cut⟩ := begins
  rcases List.append_eq_append_iff.mp cut with ⟨missing, rfl, -⟩ | ⟨kept, rfl, behind⟩
  · exact absurd (List.prefix_append text missing) notBefore
  · cases kept with
    | nil => exact absurd (by simp) notBefore
    | cons c kept =>
        obtain ⟨rfl, rfl⟩ := List.cons.inj behind
        rw [names_append, names_append, List.append_cancel_left_eq] at same
        have name := eq_of_names_eq_of_whole (List.prefix_append kept more) whole leads same
        exact congrArg (fun name => before ++ '/' :: name) name

theorem names_join {pieces : List Text} (whole : ∀ piece ∈ pieces, '/' ∉ piece) :
    names (Text.join ['/'] pieces) = pieces.filter fun name => !isIdle name := by
  by_cases empty : pieces = []
  · rw [empty]
    rfl
  · rw [names, Text.splitAll_join empty whole]

theorem eq_of_names_join_eq {text name : Text} {before : List Text}
    (whole : ∀ piece ∈ before ++ [name], '/' ∉ piece) (leads : isIdle name = false)
    (begins : text <+: Text.join ['/'] (before ++ [name]))
    (same : names text = names (Text.join ['/'] (before ++ [name]))) :
    text = Text.join ['/'] (before ++ [name]) := by
  have wholeName : '/' ∉ name := whole name (by simp)
  by_cases first : before = []
  · rw [first, List.nil_append, Text.join_singleton] at begins same ⊢
    exact eq_of_names_eq_of_whole begins wholeName leads same
  · rw [Text.join_append first (List.cons_ne_nil name []), Text.join_singleton] at begins same ⊢
    exact eq_of_names_eq begins wholeName leads same

/-- The pieces of a text are those that are kept, the last of which leads somewhere, and idle ones. -/
theorem exists_idle_end (pieces : List Text) :
    (∃ idle, pieces = dropIdleEnd pieces ++ idle ∧ ∀ piece ∈ idle, isIdle piece = true) ∧
      (dropIdleEnd pieces = [] ∨
        ∃ before name, dropIdleEnd pieces = before ++ [name] ∧ isIdle name = false) := by
  refine ⟨⟨pieces.rtakeWhile isIdle, List.rdropWhile_append_rtakeWhile.symm,
    fun _ => List.mem_rtakeWhile_imp⟩, ?_⟩
  by_cases empty : dropIdleEnd pieces = []
  · exact .inl empty
  · have leads : ¬ isIdle ((dropIdleEnd pieces).getLast empty) = true :=
      List.rdropWhile_last_not isIdle pieces empty
    exact .inr ⟨_, _, (List.dropLast_append_getLast empty).symm, by simpa using leads⟩

theorem filter_dropIdleEnd (pieces : List Text) :
    (dropIdleEnd pieces).filter (fun name => !isIdle name) =
      pieces.filter fun name => !isIdle name := by
  obtain ⟨⟨idle, cut, idleEnd⟩, -⟩ := exists_idle_end pieces
  have nothing : idle.filter (fun name => !isIdle name) = [] := by simpa using idleEnd
  conv_rhs => rw [cut, List.filter_append, nothing, List.append_nil]

/-- What is left of a text when its last name is taken away, with the idle pieces beside it, is the
shortest beginning with the names before it. -/
theorem join_dropIdleEnd {text name : Text} {before : List Text}
    (cut : dropIdleEnd (Text.splitAll '/' text) = before ++ [name]) :
    let body := Text.join ['/'] (dropIdleEnd before)
    body <+: text ∧ names text = names body ++ [name] ∧
      ∀ other, other <+: body → names other = names body → other = body := by
  intro body
  obtain ⟨⟨after, pieces, -⟩, ends⟩ := exists_idle_end (Text.splitAll '/' text)
  obtain ⟨⟨gap, kept, -⟩, keptEnds⟩ := exists_idle_end before
  have leads : isIdle name = false := by
    rcases ends with empty | ⟨_, last, same, leads⟩
    · simp [empty] at cut
    · obtain ⟨-, rfl⟩ := List.append_singleton_inj.mp (same.symm.trans cut)
      exact leads
  rw [cut] at pieces
  have whole : ∀ piece ∈ dropIdleEnd before, '/' ∉ piece := by
    intro piece member
    have written : piece ∈ Text.splitAll '/' text := by
      rw [pieces, kept]
      simp [member]
    exact Text.not_mem_of_mem_splitAll written
  refine ⟨?begins, ?names, ?shortest⟩
  case begins =>
    by_cases empty : dropIdleEnd before = []
    · simp [body, empty, Text.join]
    · rw [← Text.join_splitAll '/' text, pieces, kept, List.append_assoc, List.append_assoc,
        Text.join_append empty (by simp)]
      exact List.prefix_append _ _
  case names =>
    rw [names_join whole, filter_dropIdleEnd, names, ← filter_dropIdleEnd, cut,
      List.filter_append]
    simp [leads]
  case shortest =>
    intro other begins same
    rcases keptEnds with empty | ⟨earlier, last, cut, leads⟩
    · simp only [body, empty] at begins ⊢
      exact List.prefix_nil.mp begins
    · simp only [body, cut] at begins same whole ⊢
      exact eq_of_names_join_eq whole leads begins same

/-- What a path starts from, as a component. -/
def startComponents (start : Path) : List Text :=
  if start = [] then [] else [start]

theorem splitStart_append (path : Path) : (splitStart path).1 ++ (splitStart path).2 = path := by
  unfold splitStart
  split <;> rfl

/-- Behind what a path starts from, every text adds its names, unless it is itself a start. -/
theorem components_start {path text : Path} (begins : text <+: (splitStart path).2) :
    components ((splitStart path).1 ++ text) =
        startComponents (splitStart path).1 ++ names text ∨
      (splitStart path).1 = [] ∧ text = ['.'] := by
  unfold splitStart at begins ⊢
  split at begins
  · exact .inl rfl
  · rw [List.prefix_nil.mp begins]
    exact .inl rfl
  · cases text with
    | nil => exact .inl rfl
    | cons c text =>
        obtain ⟨rfl, -⟩ := List.cons_prefix_cons.mp begins
        refine .inl ?_
        rw [names_slash]
        rfl
  · rename_i noRoot noDot noDotSlash
    obtain ⟨more, rfl⟩ := begins
    simp only [List.nil_append, startComponents, if_true]
    unfold components
    split
    · exact absurd rfl (noRoot _)
    · exact .inr ⟨trivial, rfl⟩
    · exact absurd rfl (noDotSlash _)
    · exact .inl rfl

/-- A beginning of a path is empty, or it goes on behind what the path starts from. -/
theorem prefix_start {path other : Path} (begins : other <+: path) :
    other = [] ∧ (splitStart path).1 ≠ [] ∨
      ∃ text, other = (splitStart path).1 ++ text ∧ text <+: (splitStart path).2 := by
  obtain ⟨more, rfl⟩ := begins
  cases other with
  | nil =>
      by_cases start : (splitStart ([] ++ more)).1 = []
      · rw [start]
        exact .inr ⟨[], rfl, List.nil_prefix⟩
      · exact .inl ⟨rfl, start⟩
  | cons c other =>
      refine .inr ?_
      unfold splitStart
      split
      · rename_i rest same
        obtain ⟨rfl, rfl⟩ := List.cons.inj same
        exact ⟨other, rfl, List.prefix_append other more⟩
      · rename_i same
        obtain ⟨rfl, nothing⟩ := List.cons.inj same
        exact ⟨other, rfl, ⟨more, nothing⟩⟩
      · rename_i rest same
        obtain ⟨rfl, behind⟩ := List.cons.inj same
        exact ⟨other, rfl, ⟨more, behind⟩⟩
      · exact ⟨c :: other, rfl, List.prefix_append _ more⟩

theorem components_eq (path : Path) :
    components path = startComponents (splitStart path).1 ++ names (splitStart path).2 := by
  rcases components_start (List.prefix_refl (splitStart path).2) with same | ⟨start, dot⟩
  · rwa [splitStart_append] at same
  · have whole := splitStart_append path
    rw [start, dot] at whole
    subst whole
    cases start

/-- The empty path is the directory of a path of one component, or none. -/
theorem isDirectoryOf_nil {path : Path} (few : (components path).dropLast = []) :
    IsDirectoryOf [] path where
  beginning := List.nil_prefix
  components_eq := few.symm
  shortest _ _ _ := Nat.zero_le _

/-- A shortest text with all names but the last, behind the start of a path, is its directory. -/
theorem isDirectoryOf_start {path body : Path} {name : Text} (begins : body <+: (splitStart path).2)
    (written : names (splitStart path).2 = names body ++ [name])
    (shortest : ∀ other, other <+: body → names other = names body → other = body) :
    IsDirectoryOf ((splitStart path).1 ++ body) path := by
  have dropped : (components path).dropLast =
      startComponents (splitStart path).1 ++ names body := by
    rw [components_eq, written, ← List.append_assoc, List.dropLast_concat]
  have given : components ((splitStart path).1 ++ body) =
      startComponents (splitStart path).1 ++ names body := by
    refine (components_start begins).resolve_right ?_
    rintro ⟨-, rfl⟩
    cases shortest [] List.nil_prefix rfl
  refine ⟨?beginning, given.trans dropped.symm, ?shortest⟩
  case beginning =>
    conv_rhs => rw [← splitStart_append path]
    exact List.prefix_append_right_inj _ |>.mpr begins
  case shortest =>
    intro other beginning same
    rw [dropped] at same
    rcases prefix_start beginning with ⟨rfl, start⟩ | ⟨text, rfl, behind⟩
    · simp [startComponents, start, components, names, Text.splitAll, isIdle] at same
    · rw [List.length_append, List.length_append, Nat.add_le_add_iff_left]
      refine Nat.le_of_not_lt fun shorter => ?_
      have inside := List.prefix_of_prefix_length_le behind begins (Nat.le_of_lt shorter)
      rcases components_start behind with alike | ⟨start, rfl⟩
      · rw [alike, List.append_cancel_left_eq] at same
        rw [shortest text inside same] at shorter
        exact absurd shorter (Nat.lt_irrefl _)
      · rw [start] at same
        have dot : names body = [['.']] := same.symm
        exact dot_not_mem_names body (by simp [dot])

/-- The parent of a path is its directory. -/
theorem parent_isDirectoryOf (path : Path) : IsDirectoryOf (parent path) path := by
  unfold parent
  simp only
  split
  · rename_i empty
    refine isDirectoryOf_nil ?_
    rw [components_eq, names, ← filter_dropIdleEnd, empty, startComponents]
    split <;> rfl
  · rename_i first rest cut
    have ends : dropIdleEnd (Text.splitAll '/' (splitStart path).2) =
        (first :: rest).dropLast ++ [(first :: rest).getLast (List.cons_ne_nil first rest)] := by
      rw [cut, List.dropLast_append_getLast]
    obtain ⟨begins, written, shortest⟩ := join_dropIdleEnd ends
    exact isDirectoryOf_start begins written shortest

theorem isDirectoryOf_iff {directory path : Path} :
    IsDirectoryOf directory path ↔ directory = parent path := by
  constructor
  · intro directoryOf
    exact directoryOf.unique (parent_isDirectoryOf path)
  · rintro rfl
    exact parent_isDirectoryOf path

-- What leads nowhere stays within the directory and goes at its end.
example : IsDirectoryOf "/c//d".toList "/c//d/./e/.".toList := isDirectoryOf_iff.mpr rfl

end SshConfig.Path
