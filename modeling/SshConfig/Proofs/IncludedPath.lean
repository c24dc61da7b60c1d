import SshConfig.Interpretation
import SshConfig.Proofs.Pieces

namespace SshConfig

/-! What the paths of included files depend on.

A home directory is put in the place of a leading tilde first, and the result is looked for below
the directory of the including file unless it begins at the root.  So where the home directory is
itself no path from the root, what an argument with a tilde means depends on the including file.
-/

namespace Path

theorem join_of_absolute (base : Path) {path : Path} (absolute : path.isAbsolute = true) :
    join base path = path :=
  if_pos absolute

theorem join_nil (path : Path) : join [] path = path := by
  unfold join
  split <;> rfl

theorem join_eq_append {base path : Path} (filled : base ≠ [])
    (relative : path.isAbsolute = false) : ∃ tail, join base path = base ++ tail := by
  unfold join
  rw [relative, if_neg Bool.false_ne_true]
  split
  · rename_i empty
    exact absurd (List.getLast?_eq_none_iff.mp empty) filled
  · exact ⟨path, rfl⟩
  · exact ⟨'/' :: path, rfl⟩

theorem isAbsolute_join (base path : Path) :
    (join base path).isAbsolute = (path.isAbsolute || base.isAbsolute) := by
  cases absolute : path.isAbsolute with
  | true => rw [join_of_absolute base absolute, absolute, Bool.true_or]
  | false =>
      cases base with
      | nil => rw [join_nil, absolute]; rfl
      | cons c rest =>
          obtain ⟨tail, same⟩ := join_eq_append (List.cons_ne_nil c rest) absolute
          rw [same, Bool.false_or]
          rfl

/-- Only a path from the root means the same below all directories. -/
theorem join_eq_join_iff (path : Path) :
    (∀ base other, join base path = join other path) ↔ path.isAbsolute = true := by
  constructor
  · intro same
    have below : isAbsolute (join ['/'] path) = isAbsolute (join [] path) :=
      congrArg isAbsolute (same ['/'] [])
    rw [isAbsolute_join, isAbsolute_join] at below
    cases absolute : path.isAbsolute with
    | true => rfl
    | false =>
        rw [absolute] at below
        cases below
  · intro absolute base other
    rw [join_of_absolute base absolute, join_of_absolute other absolute]

end Path

namespace Homes

theorem expand_tilde (homes : Homes) {name : Text} (whole : '/' ∉ name) :
    homes.expand ('~' :: name) = homes.named name := by
  simp [expand, Text.splitFirst_eq_none.mpr whole]

theorem expand_below (homes : Homes) {name : Text} (inside : Path) (whole : '/' ∉ name) :
    homes.expand ('~' :: (name ++ '/' :: inside)) =
      (homes.named name).map fun home => Path.join home inside := by
  simp [expand, Text.splitFirst_append whole]

theorem expand_plain (homes : Homes) {path : Path} (noTilde : path.head? ≠ some '~') :
    homes.expand path = some path := by
  unfold expand
  split
  · exact absurd rfl noTilde
  · rfl

/-- Whether a home directory is the one of the account with a name, or that of the account at work
if there is no name. -/
inductive Knows (homes : Homes) : Text → Path → Prop where
  | own (known : homes.own = some home) : Knows homes [] home
  | account (given : name ≠ []) (known : homes.ofAccount name = some home) :
      Knows homes name home

theorem named_eq_some {homes : Homes} {name : Text} {home : Path} :
    homes.named name = some home ↔ homes.Knows name home := by
  unfold named
  by_cases own : name = []
  · rw [if_pos own, own]
    refine ⟨.own, fun known => ?_⟩
    cases known with
    | own known => exact known
    | account given _ => exact absurd rfl given
  · rw [if_neg own]
    refine ⟨.account own, fun known => ?_⟩
    cases known with
    | own _ => exact absurd rfl own
    | account _ known => exact known

/-- Whether an argument is looked for below a home directory.  It is a tilde and the name of an
account whose home directory that is, or no name, and maybe a slash with a path behind it that does
not begin at the root itself. -/
inductive Places (homes : Homes) : Text → Path → Prop where
  | itself (whole : '/' ∉ name) (known : homes.Knows name home) : Places homes ('~' :: name) home
  | inside (whole : '/' ∉ name) (known : homes.Knows name home)
      (relative : Path.isAbsolute inside = false) :
      Places homes ('~' :: (name ++ '/' :: inside)) home

theorem Places.exists_knows {homes : Homes} {argument : Text} {home : Path}
    (placed : homes.Places argument home) : ∃ name, homes.Knows name home := by
  cases placed with
  | itself _ known | inside _ known _ => exact ⟨_, known⟩

/-- What an argument with a tilde means is a path from the root exactly if every home directory is
one that it is looked for below. -/
theorem expand_isAbsolute_iff {homes : Homes} {argument : Text}
    (tilde : argument.head? = some '~') :
    (∀ path, homes.expand argument = some path → path.isAbsolute = true) ↔
      ∀ home, homes.Places argument home → home.isAbsolute = true := by
  constructor
  · intro rooted home placed
    cases placed with
    | itself whole known =>
        exact rooted home ((homes.expand_tilde whole).trans (named_eq_some.mpr known))
    | inside whole known relative =>
        have joined := rooted _
          ((homes.expand_below _ whole).trans (congrArg _ (named_eq_some.mpr known)))
        rwa [Path.isAbsolute_join, relative, Bool.false_or] at joined
  · intro rooted path expanded
    obtain ⟨rest, rfl⟩ := List.head?_eq_some_iff.mp tilde
    cases parts : Text.splitFirst '/' rest with
    | none =>
        have whole := Text.splitFirst_eq_none.mp parts
        rw [homes.expand_tilde whole] at expanded
        exact rooted path (.itself whole (named_eq_some.mp expanded))
    | some parts' =>
        obtain ⟨rfl, whole⟩ := Text.splitFirst_eq_some.mp parts
        rw [homes.expand_below _ whole] at expanded
        obtain ⟨home, known, rfl⟩ := Option.map_eq_some_iff.mp expanded
        rw [Path.isAbsolute_join]
        cases relative : Path.isAbsolute parts'.2 with
        | true => rfl
        | false => exact rooted home (.inside whole (named_eq_some.mp known) relative)

end Homes

theorem includedPath_eq_includedPath_iff (home : Homes) (argument : Text) :
    (∀ directory other,
      includedPath home directory argument = includedPath home other argument) ↔
      ∀ path, home.expand argument = some path → path.isAbsolute = true := by
  unfold includedPath
  cases home.expand argument with
  | none => simp
  | some path =>
      have joined : (∀ directory other, Path.join directory path = Path.join other path) ↔
          path.isAbsolute = true := Path.join_eq_join_iff path
      simpa using joined

/-- An argument that begins with a tilde or a slash means the same below all directories exactly if
every home directory that it is looked for below is a path from the root.  Any other argument is
looked for below the directory as it is. -/
theorem includedPath_sameBelow_iff (home : Homes) (argument : Text) :
    (argument.head? = some '~' ∨ argument.head? = some '/' →
      ((∀ directory other,
        includedPath home directory argument = includedPath home other argument) ↔
        ∀ base, home.Places argument base → base.isAbsolute = true)) ∧
    (argument.head? ≠ some '~' →
      ∀ directory, includedPath home directory argument = .ok (Path.join directory argument)) := by
  refine ⟨fun begins => ?_, fun noTilde directory => ?_⟩
  · rw [includedPath_eq_includedPath_iff]
    rcases begins with tilde | root
    · exact Homes.expand_isAbsolute_iff tilde
    · have absolute : Path.isAbsolute argument = true := beq_iff_eq.mpr root
      have noTilde : argument.head? ≠ some '~' := by simp [root]
      have elsewhere : ∀ base, ¬ home.Places argument base := by
        intro base placed
        cases placed <;> simp at noTilde
      simp [home.expand_plain noTilde, absolute, elsewhere]
  · simp [includedPath, home.expand_plain noTilde]

/-- The home directory of another account is no other case than that of the account at work, and an
account that is not known is refused everywhere. -/
theorem includedPath_sameBelow_iff_home :
    let home : Homes :=
      { own := some "/h".toList
        ofAccount := fun name => if name = "root".toList then some "/root".toList else none }
    (("~root/x".toList.head? = some '~' ∨ "~root/x".toList.head? = some '/') ∧
      (∀ directory other, includedPath home directory "~root/x".toList =
        includedPath home other "~root/x".toList) ∧
      includedPath home "/b".toList "~root/x".toList = .ok "/root/x".toList) ∧
    (("~no/x".toList.head? = some '~' ∨ "~no/x".toList.head? = some '/') ∧
      ∀ directory other, includedPath home directory "~no/x".toList =
        includedPath home other "~no/x".toList) ∧
    ("x~".toList.head? ≠ some '~' ∧
      ∀ directory, includedPath home directory "x~".toList =
        .ok (Path.join directory "x~".toList)) := by
  intro home
  have rooted (argument : Text) : ∀ base, home.Places argument base → base.isAbsolute = true := by
    intro base placed
    obtain ⟨name, known | ⟨-, known⟩⟩ := placed.exists_knows
    · cases known
      rfl
    · simp only [home] at known
      split at known <;> cases known
      rfl
  have tilde (name : Text) : ('~' :: name).head? = some '~' ∨ ('~' :: name).head? = some '/' :=
    .inl rfl
  have plain : "x~".toList.head? ≠ some '~' := by decide
  refine ⟨⟨tilde _, ?_, rfl⟩, ⟨tilde _, ?_⟩, plain, (includedPath_sameBelow_iff _ _).2 plain⟩
  · exact ((includedPath_sameBelow_iff home "~root/x".toList).1 (tilde _)).mpr (rooted _)
  · exact ((includedPath_sameBelow_iff home "~no/x".toList).1 (tilde _)).mpr (rooted _)

/-- Where the home directory is no path from the root, a place in it depends on the directory. -/
theorem includedPath_relativeHome :
    includedPath "rel".toList "/base".toList "~/x".toList = .ok "/base/rel/x".toList ∧
    includedPath "rel".toList [] "~/x".toList = .ok "rel/x".toList :=
  ⟨rfl, rfl⟩

end SshConfig
