import SshConfig.Proofs.Origins
import Mathlib.Data.List.Chain
import Mathlib.Data.List.Nodup

namespace SshConfig

/-! Files that include one another.

Nothing keeps a list of the files that are being read.  A file that a text names is read again
from another draft at every level, but what it names does not depend on the draft, so a text
that does not fail at one level has the files that it names not failing at the next.  Levels
run out, so no way through the inclusions of such a text comes back to a file that it was in.
-/

variable {surroundings : Surroundings} {nested : Option Interpretation} {place : Place}
  {draft after : Draft}

theorem includeFile_eq_done {argument : Text} :
    includeFile surroundings nested place argument draft = { draft := after } ↔
      ∃ path interpret text,
        includedPath surroundings.home place.directory argument = .ok path ∧
        nested = some interpret ∧
        surroundings.files.text path = .ok text ∧
        interpret (.ofFile path) text draft = { draft := after } := by
  unfold includeFile
  constructor
  · intro done
    cases found : includedPath surroundings.home place.directory argument with
    | error cause => simp [found, Outcome.ofResult] at done
    | ok path =>
        cases nested with
        | none => simp [found, Outcome.ofResult] at done
        | some interpret =>
            cases readable : surroundings.files.text path with
            | error reason => simp [found, readable, Outcome.ofResult] at done
            | ok text =>
                simp only [found, readable] at done
                split at done
                · exact ⟨path, interpret, text, rfl, rfl, readable, done⟩
                · cases done
  · rintro ⟨path, interpret, text, found, rfl, readable, done⟩
    simp only [found, readable, done]

theorem includeFiles_done_of_mem {arguments : List Text} {argument : Text}
    (member : argument ∈ arguments)
    (done : includeFiles surroundings nested place arguments draft = { draft := after }) :
    ∃ before middle, includeFile surroundings nested place argument before =
      { draft := middle } := by
  induction arguments generalizing draft with
  | nil => cases member
  | cons first rest ih =>
      obtain ⟨middle, firstDone, restDone⟩ := Outcome.andThen_eq_done.mp done
      rcases List.mem_cons.mp member with rfl | later
      · exact ⟨draft, middle, firstDone⟩
      · exact ih later restDone

theorem interpretLines_done_of_mem {number : Nat} {lines : List Text} {line : Text}
    (member : line ∈ lines)
    (done : interpretLines surroundings nested place number lines draft = { draft := after }) :
    ∃ position before middle, interpretLine surroundings nested place position line before =
      { draft := middle } := by
  induction lines generalizing number draft with
  | nil => cases member
  | cons first rest ih =>
      obtain ⟨middle, firstDone, restDone⟩ := Outcome.andThen_eq_done.mp done
      rcases List.mem_cons.mp member with rfl | later
      · exact ⟨number, draft, middle, Outcome.within_eq_done.mp firstDone⟩
      · exact ih later restDone

/-- A file that lines name, where the lines do not fail, is interpreted and does not fail. -/
theorem interpretLines_done_of_names {number : Nat} {lines : List Text} {path : Path}
    (named : Stretch.Names surroundings place (.lines number lines) path)
    (done : interpretLines surroundings nested place number lines draft = { draft := after }) :
    ∃ interpret text before middle,
      nested = some interpret ∧
      surroundings.files.text path = .ok text ∧
      interpret (.ofFile path) text before = { draft := middle } := by
  obtain ⟨line, member, arguments, reads, argument, given, found⟩ := named
  obtain ⟨position, before, middle, lineDone⟩ := interpretLines_done_of_mem member done
  have filesDone : includeFiles surroundings nested place arguments before =
      { draft := middle } := by
    rw [interpretLine, reads] at lineDone
    exact lineDone
  obtain ⟨start, left, fileDone⟩ := includeFiles_done_of_mem given filesDone
  obtain ⟨other, interpret, text, foundOther, deeper, readable, textDone⟩ :=
    includeFile_eq_done.mp fileDone
  obtain rfl := Except.ok.inj (found.symm.trans foundOther)
  exact ⟨interpret, text, start, left, deeper, readable, textDone⟩

/-- Whether some draft can be taken through the file at a path with the given number of levels
of inclusion left. -/
def Completes (surroundings : Surroundings) (levels : Nat) (path : Path) : Prop :=
  ∃ text before after,
    surroundings.files.text path = .ok text ∧
    interpret surroundings levels (.ofFile path) text before = { draft := after }

theorem completes_of_names {levels : Nat} {text : Text} {path : Path}
    (named : Stretch.Names surroundings place (.lines 1 (Text.lines text)) path)
    (done : interpret surroundings levels place text draft = { draft := after }) :
    ∃ below, levels = below + 1 ∧ Completes surroundings below path := by
  cases levels with
  | zero =>
      obtain ⟨_, _, _, _, impossible, -⟩ := interpretLines_done_of_names named done
      cases impossible
  | succ below =>
      obtain ⟨_, content, before, middle, same, readable, contentDone⟩ :=
        interpretLines_done_of_names named done
      cases same
      exact ⟨below, rfl, content, before, middle, readable, contentDone⟩

namespace Completes

variable {levels : Nat} {path inner : Path}

theorem of_includes (completes : Completes surroundings levels path)
    (includes : Includes surroundings path inner) :
    ∃ below, levels = below + 1 ∧ Completes surroundings below inner := by
  obtain ⟨text, before, after, readable, done⟩ := completes
  obtain ⟨content, line, arguments, argument, readableToo, member, reads, given, found⟩ :=
    includes
  obtain rfl := Except.ok.inj (readable.symm.trans readableToo)
  exact completes_of_names ⟨line, member, arguments, reads, argument, given, found⟩ done

theorem of_reaches (completes : Completes surroundings levels path)
    (reaches : Relation.ReflTransGen (Includes surroundings) path inner) :
    ∃ below, Completes surroundings below inner := by
  induction reaches with
  | refl => exact ⟨levels, completes⟩
  | tail _ includes ih =>
      obtain ⟨middle, inMiddle⟩ := ih
      obtain ⟨below, -, inBelow⟩ := inMiddle.of_includes includes
      exact ⟨below, inBelow⟩

/-- A file that does not fail is not on a way back to itself. -/
theorem not_cyclic (completes : Completes surroundings levels path) :
    ¬ Relation.TransGen (Includes surroundings) path path := by
  -- the next file on the way is on a way back to itself too, with one level less
  induction levels generalizing path with
  | zero =>
      intro cyclic
      obtain ⟨next, includes, -⟩ := Relation.TransGen.head'_iff.mp cyclic
      obtain ⟨below, impossible, -⟩ := completes.of_includes includes
      cases impossible
  | succ levels ih =>
      intro cyclic
      obtain ⟨next, includes, back⟩ := Relation.TransGen.head'_iff.mp cyclic
      obtain ⟨below, same, inNext⟩ := completes.of_includes includes
      cases same
      exact ih inNext (.tail' back includes)

theorem chain_bounded {rest : List Path} (completes : Completes surroundings levels path)
    (chain : (path :: rest).IsChain (Includes surroundings)) : rest.length ≤ levels := by
  induction rest generalizing levels path with
  | nil => exact Nat.zero_le levels
  | cons next rest ih =>
      have includes : Includes surroundings path next := chain.rel
      obtain ⟨below, rfl, inNext⟩ := completes.of_includes includes
      have shorter : rest.length ≤ below := ih inNext chain.of_cons
      simp only [List.length_cons]
      omega

theorem chain_nodup {rest : List Path} (completes : Completes surroundings levels path)
    (chain : (path :: rest).IsChain (Includes surroundings)) : (path :: rest).Nodup := by
  induction rest generalizing levels path with
  | nil => exact List.nodup_singleton path
  | cons next rest ih =>
      have includes : Includes surroundings path next := chain.rel
      obtain ⟨below, -, inNext⟩ := completes.of_includes includes
      refine List.nodup_cons.mpr ⟨fun again => ?_, ih inNext chain.of_cons⟩
      have back : Relation.ReflTransGen (Includes surroundings) next path :=
        chain.of_cons.induction (Relation.ReflTransGen (Includes surroundings) next) _
          (fun _ _ step before => .tail before step) (fun _ => .refl) path again
      exact completes.not_cyclic (.head' includes back)

end Completes

theorem completes_of_parseFile {path : Path} {config : Config}
    (parsed : parseFile surroundings path = .ok config) :
    Completes surroundings includeLimit path := by
  unfold parseFile at parsed
  split at parsed
  · cases parsed
  · rename_i text readable
    obtain ⟨draft, done, -⟩ := parseAt_eq_ok.mp parsed
    exact ⟨text, _, draft, readable, done⟩

theorem completes_of_parseText {directory path : Path} {text : Text} {config : Config}
    (named : Stretch.Names surroundings ⟨"<string>".toList, directory⟩ (.lines 1 (Text.lines text))
      path)
    (parsed : parseText surroundings directory text = .ok config) :
    ∃ levels, Completes surroundings levels path := by
  obtain ⟨draft, done, -⟩ := parseAt_eq_ok.mp parsed
  obtain ⟨below, -, completes⟩ := completes_of_names named done
  exact ⟨below, completes⟩

theorem Session.completes_of_parse {session : Session} {text : Text} {path : Path}
    (named : Stretch.Names session.surroundings session.place (.lines 1 (Text.lines text)) path)
    (succeeded : (session.parse text).2 = none) :
    ∃ levels, Completes session.surroundings levels path := by
  have done := Outcome.eq_done succeeded
  obtain ⟨below, -, completes⟩ := completes_of_names named done
  exact ⟨below, completes⟩

/-- Inclusions that lead on from a file that is parsed never lead back, and they go no deeper than
the limit.  A file that leads back to itself makes every parse fail that comes to it. -/
theorem parseFile_acyclic (surroundings : Surroundings) :
    (∀ path config rest, parseFile surroundings path = .ok config →
      (path :: rest).IsChain (Includes surroundings) →
      (path :: rest).Nodup ∧ rest.length ≤ 16) ∧
    ∀ looping, Relation.TransGen (Includes surroundings) looping looping →
      (∀ path, Relation.ReflTransGen (Includes surroundings) path looping →
        ∃ failure, parseFile surroundings path = .error failure) ∧
      (∀ directory text path,
        Stretch.Names surroundings ⟨"<string>".toList, directory⟩ (.lines 1 (Text.lines text))
          path →
        Relation.ReflTransGen (Includes surroundings) path looping →
        ∃ failure, parseText surroundings directory text = .error failure) ∧
      ∀ (session : Session) (text : Text) (path : Path), session.surroundings = surroundings →
        Stretch.Names surroundings session.place (.lines 1 (Text.lines text)) path →
        Relation.ReflTransGen (Includes surroundings) path looping →
        ∃ failure, (session.parse text).2 = some failure := by
  refine ⟨fun path config rest parsed chain => ?_, fun looping cyclic => ⟨?_, ?_, ?_⟩⟩
  · have completes := completes_of_parseFile parsed
    exact ⟨completes.chain_nodup chain, completes.chain_bounded chain⟩
  · intro path reaches
    cases parsed : parseFile surroundings path with
    | error failure => exact ⟨failure, rfl⟩
    | ok config =>
        obtain ⟨levels, completes⟩ := (completes_of_parseFile parsed).of_reaches reaches
        exact absurd cyclic completes.not_cyclic
  · intro directory text path named reaches
    cases parsed : parseText surroundings directory text with
    | error failure => exact ⟨failure, rfl⟩
    | ok config =>
        obtain ⟨levels, begun⟩ := completes_of_parseText named parsed
        obtain ⟨below, completes⟩ := begun.of_reaches reaches
        exact absurd cyclic completes.not_cyclic
  · intro session text path same named reaches
    cases same
    cases result : (session.parse text).2 with
    | some failure => exact ⟨failure, rfl⟩
    | none =>
        obtain ⟨levels, begun⟩ := Session.completes_of_parse named result
        obtain ⟨below, completes⟩ := begun.of_reaches reaches
        exact absurd cyclic completes.not_cyclic

/-- A file that includes a file that includes a third one, and a file that leads to one that
includes itself. -/
theorem parseFile_acyclic_three :
    let bytes (text : String) : Bytes := text.toList.map Char.toUInt8
    let surroundings : Surroundings :=
      { files := fun path => .ok (
          if path = "/c/a".toList then bytes "User u\nInclude b"
          else if path = "/c/b".toList then bytes "Host h\nInclude x c"
          else if path = "/c/l".toList then bytes "Include x l"
          else if path = "/c/m".toList then bytes "Include l"
          else [])
        home := {} }
    let chain : List Path := ["/c/a".toList, "/c/b".toList, "/c/c".toList]
    let session : Session := { surroundings, place := ⟨['s'], "/c".toList⟩, depth := 3 }
    (∃ config, parseFile surroundings "/c/a".toList = .ok config) ∧
      chain.IsChain (Includes surroundings) ∧ (chain.Nodup ∧ chain.tail.length ≤ 16) ∧
      Relation.TransGen (Includes surroundings) "/c/l".toList "/c/l".toList ∧
      (∃ failure, parseFile surroundings "/c/m".toList = .error failure) ∧
      (∃ failure, parseText surroundings "/c".toList "Include m".toList = .error failure) ∧
      ∃ failure, (session.parse "Include m".toList).2 = some failure := by
  intro bytes surroundings chain session
  have first : Includes surroundings "/c/a".toList "/c/b".toList :=
    ⟨_, "Include b".toList, ["b".toList], "b".toList, rfl, .tail _ (.head _), rfl, .head _, rfl⟩
  have second : Includes surroundings "/c/b".toList "/c/c".toList :=
    ⟨_, "Include x c".toList, ["x".toList, "c".toList], "c".toList, rfl, .tail _ (.head _), rfl,
      .tail _ (.head _), rfl⟩
  have loop : Includes surroundings "/c/l".toList "/c/l".toList :=
    ⟨_, "Include x l".toList, ["x".toList, "l".toList], "l".toList, rfl, .head _, rfl,
      .tail _ (.head _), rfl⟩
  have leads : Includes surroundings "/c/m".toList "/c/l".toList :=
    ⟨_, "Include l".toList, ["l".toList], "l".toList, rfl, .head _, rfl, .head _, rfl⟩
  have isChain : chain.IsChain (Includes surroundings) :=
    .cons_cons first (.cons_cons second (.singleton _))
  have parsed : parseFile surroundings "/c/a".toList = .ok _ := rfl
  obtain ⟨chains, loops⟩ := parseFile_acyclic surroundings
  obtain ⟨files, texts, sessions⟩ := loops _ (.single loop)
  have named (source : Text) : Stretch.Names surroundings ⟨source, "/c".toList⟩
      (.lines 1 (Text.lines "Include m".toList)) "/c/m".toList :=
    ⟨"Include m".toList, .head _, ["m".toList], rfl, "m".toList, .head _, rfl⟩
  exact ⟨⟨_, parsed⟩, isChain, chains _ _ _ parsed isChain, .single loop,
    files _ (.single leads), texts _ _ _ (named _) (.single leads),
    sessions session _ _ rfl (named _) (.single leads)⟩

end SshConfig
