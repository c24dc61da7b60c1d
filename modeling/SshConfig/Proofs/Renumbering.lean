import SshConfig.Proofs.Correspondence
import SshConfig.Proofs.Lines
import Mathlib.Data.List.Forall2

namespace SshConfig

/-! Texts that ask for the same on other lines.

A text does what its lines ask for, one after the other, and a line that asks for nothing is only
counted.  So where the files that are read ask for the same on lines with other numbers, the
configuration has the same blocks with other numbers, and a failure leads the same way with other
numbers, in the text and in all that it includes.
-/

/-- What a line asks for, with the number of the line. -/
structure Request where
  number : Nat
  asked : Except ConfigError Directive

/-- The requests of lines, the first of which has the given number. -/
def requestsFrom : Nat → List Text → List Request
  | _, [] => []
  | number, line :: rest =>
      match Directive.ofLine line with
      | .error cause => ⟨number, .error cause⟩ :: requestsFrom (number + 1) rest
      | .ok none => requestsFrom (number + 1) rest
      | .ok (some directive) => ⟨number, .ok directive⟩ :: requestsFrom (number + 1) rest

def requests (text : Text) : List Request :=
  requestsFrom 1 (Text.lines text)

def Request.carryOut (surroundings : Surroundings) (nested : Option Interpretation)
    (place : Place) (request : Request) (draft : Draft) : Outcome :=
  match request.asked with
  | .error cause => .ofResult draft (.error cause)
  | .ok directive => SshConfig.carryOut surroundings nested place request.number directive draft

def carryOutAll (surroundings : Surroundings) (nested : Option Interpretation) (place : Place) :
    List Request → Draft → Outcome
  | [], draft => { draft }
  | request :: rest, draft =>
      ((request.carryOut surroundings nested place draft).within (.line request.number)).andThen
        (carryOutAll surroundings nested place rest)

theorem interpretLines_eq_carryOutAll (surroundings : Surroundings)
    (nested : Option Interpretation) (place : Place) (number : Nat) (lines : List Text)
    (draft : Draft) :
    interpretLines surroundings nested place number lines draft =
      carryOutAll surroundings nested place (requestsFrom number lines) draft := by
  induction lines generalizing number draft with
  | nil => rfl
  | cons line rest ih =>
      have others : interpretLines surroundings nested place (number + 1) rest =
          carryOutAll surroundings nested place (requestsFrom (number + 1) rest) :=
        funext (ih (number + 1))
      rw [interpretLines, interpretLine_eq, requestsFrom, others]
      cases Directive.ofLine line with
      | error cause => rfl
      | ok asked =>
          cases asked with
          | none => rfl
          | some directive => rfl

theorem requestsFrom_append (number : Nat) (lines later : List Text) :
    requestsFrom number (lines ++ later) =
      requestsFrom number lines ++ requestsFrom (number + lines.length) later := by
  induction lines generalizing number with
  | nil => rfl
  | cons line rest ih =>
      have next : number + (line :: rest).length = number + 1 + rest.length := by
        simp only [List.length_cons]
        omega
      rw [List.cons_append, requestsFrom, requestsFrom, ih, next]
      split <;> rfl

theorem requestsFrom_congr {lines others : List Text}
    (same : List.Forall₂ (fun line other => Directive.ofLine line = Directive.ofLine other) lines
      others) (number : Nat) :
    requestsFrom number lines = requestsFrom number others := by
  induction same generalizing number with
  | nil => rfl
  | cons first _ ih => rw [requestsFrom, requestsFrom, first, ih]

theorem requestsFrom_linesOfPieces (number : Nat) (pieces : List Text) :
    requestsFrom number (Text.linesOfPieces pieces) = requestsFrom number pieces := by
  induction pieces generalizing number with
  | nil => rfl
  | cons piece rest ih =>
      cases rest with
      | nil => cases piece <;> rfl
      | cons next others =>
          rw [Text.linesOfPieces, requestsFrom, requestsFrom, ih, Directive.ofLine_dropReturn]

theorem requests_eq (text : Text) : requests text = requestsFrom 1 (Text.splitAll '\n' text) :=
  requestsFrom_linesOfPieces 1 _

def Request.renumbered (numbering : Nat → Nat) (request : Request) : Request :=
  { request with number := numbering request.number }

theorem requestsFrom_renumbered (numbering : Nat → Nat) (lower number : Nat) (lines : List Text)
    (moved : ∀ index < lines.length, numbering (number + index) = number + index + lower) :
    requestsFrom (number + lower) lines =
      (requestsFrom number lines).map (Request.renumbered numbering) := by
  induction lines generalizing number with
  | nil => rfl
  | cons line rest ih =>
      have here : numbering number = number + lower := moved 0 (by simp)
      have later : ∀ index < rest.length,
          numbering (number + 1 + index) = number + 1 + index + lower := by
        intro index within
        have same : number + (index + 1) = number + 1 + index := by omega
        rw [← same]
        exact moved (index + 1) (by simpa using within)
      have next : number + lower + 1 = number + 1 + lower := by omega
      rw [requestsFrom, requestsFrom, next, ih (number + 1) later]
      split <;> simp [Request.renumbered, here]

section

variable (numbering : Text → Nat → Nat)

def Block.renumbered (block : Block) : Block :=
  { block with
    origin := { block.origin with line := numbering block.origin.source block.origin.line } }

def Config.renumbered (config : Config) : Config :=
  { config with blocks := config.blocks.map (Block.renumbered numbering) }

def Draft.renumbered (draft : Draft) : Draft :=
  { draft with config := draft.config.renumbered numbering }

/-- The layers of the way from a text with other numbers.  A line belongs to the file before it, or
to the text if there is none. -/
def renumberLayers : Text → List Layer → List Layer
  | _, [] => []
  | source, .line number :: rest =>
      .line (numbering source number) :: renumberLayers source rest
  | _, .file path :: rest => .file path :: renumberLayers path rest

def Failure.renumbered (source : Text) (failure : Failure) : Failure :=
  { failure with layers := renumberLayers numbering source failure.layers }

def Outcome.renumbered (source : Text) (outcome : Outcome) : Outcome where
  draft := outcome.draft.renumbered numbering
  failure := outcome.failure.map (Failure.renumbered numbering source)

/-- What parsing a file gives, with other numbers. -/
def renumberResult (path : Path) : Except Failure Config → Except Failure Config
  | .ok config => .ok (config.renumbered numbering)
  | .error failure => .error (failure.renumbered numbering path)

end

theorem Config.renumbered_same (config : Config) :
    config.renumbered (fun _ number => number) = config := by
  have same : Block.renumbered (fun _ number => number) = id := rfl
  rw [renumbered, same, List.map_id]

theorem renumberLayers_same (source : Text) (layers : List Layer) :
    renumberLayers (fun _ number => number) source layers = layers := by
  induction layers generalizing source with
  | nil => rfl
  | cons layer rest ih => cases layer <;> simp only [renumberLayers, ih]

theorem renumberResult_same (path : Path) (result : Except Failure Config) :
    renumberResult (fun _ number => number) path result = result := by
  cases result with
  | error failure => rw [renumberResult, Failure.renumbered, renumberLayers_same]
  | ok config => rw [renumberResult, Config.renumbered_same]

namespace Draft

variable {numbering : Text → Nat → Nat} (draft : Draft)

theorem renumbered_openBlock (header : Header) (source : Text) (number : Nat) :
    (draft.renumbered numbering).openBlock header ⟨source, numbering source number⟩ =
      (draft.openBlock header ⟨source, number⟩).renumbered numbering := by
  simp [openBlock, renumbered, Config.renumbered, Block.renumbered]

theorem renumbered_scope : (draft.renumbered numbering).scope = draft.scope := by
  simp only [scope, renumbered, Config.renumbered, List.length_map]

theorem renumbered_changeScope (change : Options → Options) :
    (draft.renumbered numbering).changeScope change =
      (draft.changeScope change).renumbered numbering := by
  unfold changeScope
  rw [renumbered_scope]
  cases draft.scope with
  | none => rfl
  | some index =>
      simp only [renumbered, Config.renumbered]
      congr 2
      apply List.ext_getElem?
      intro place
      simp only [List.getElem?_modify, List.getElem?_map]
      cases draft.config.blocks[place]? with
      | none => rfl
      | some block => by_cases here : index = place <;> simp [here, Block.renumbered]

theorem renumbered_set (setting : Setting) (source : Text) :
    Outcome.ofResult (draft.renumbered numbering) ((draft.renumbered numbering).set setting) =
      (Outcome.ofResult draft (draft.set setting)).renumbered numbering source := by
  unfold set
  rw [renumbered_scope]
  split
  · rfl
  · rw [renumbered_changeScope]
    rfl

end Draft

namespace Outcome

variable {numbering : Text → Nat → Nat} {source : Text}

theorem renumbered_andThen (outcome : Outcome) {next last : Draft → Outcome}
    (same : ∀ draft, last (draft.renumbered numbering) = (next draft).renumbered numbering source) :
    (outcome.renumbered numbering source).andThen last =
      (outcome.andThen next).renumbered numbering source := by
  rcases outcome with ⟨draft, _ | failure⟩
  · exact same draft
  · rfl

theorem renumbered_within (outcome : Outcome) (number : Nat) :
    (outcome.renumbered numbering source).within (.line (numbering source number)) =
      (outcome.within (.line number)).renumbered numbering source := by
  rcases outcome with ⟨draft, _ | failure⟩ <;> rfl

theorem renumbered_leaving (outcome : Outcome) (path : Path) (before : Draft) :
    (outcome.renumbered numbering path).leaving path (before.renumbered numbering) =
      (outcome.leaving path before).renumbered numbering source := by
  rcases outcome with ⟨draft, _ | failure⟩ <;> rfl

end Outcome

/-- What is read in the place of a text that asks for the same on other lines. -/
inductive AsksAlike (numbering : Nat → Nat) :
    Except ReadFailure Text → Except ReadFailure Text → Prop where
  | unreadable : AsksAlike numbering (.error reason) (.error reason)
  | readable (same : requests other = (requests text).map (Request.renumbered numbering)) :
      AsksAlike numbering (.ok text) (.ok other)

theorem AsksAlike.refl (read : Except ReadFailure Text) :
    AsksAlike (fun number => number) read read := by
  cases read with
  | error reason => exact .unreadable
  | ok text =>
      refine .readable ?_
      have same : Request.renumbered (fun number => number) = id := rfl
      rw [same, List.map_id]

/-- Whether files are included alike by two interpretations, apart from the numbers of lines. -/
def Renumbers (numbering : Text → Nat → Nat) (interpret other : Interpretation) : Prop :=
  ∀ path text changed draft,
    requests changed = (requests text).map (Request.renumbered (numbering path)) →
    other (.ofFile path) changed (draft.renumbered numbering) =
      (interpret (.ofFile path) text draft).renumbered numbering path

section

variable {numbering : Text → Nat → Nat} {surroundings : Surroundings} {others : FileSystem}
  {nested nestedToo : Option Interpretation}
  (files : ∀ path, AsksAlike (numbering path) (surroundings.files.text path) (others.text path))
  (inner : Option.Rel (Renumbers numbering) nested nestedToo)
include files inner

theorem includeFile_renumbered (place : Place) (argument : Text) (draft : Draft) :
    includeFile { surroundings with files := others } nestedToo place argument
        (draft.renumbered numbering) =
      (includeFile surroundings nested place argument draft).renumbered numbering
        place.source := by
  cases found : includedPath surroundings.home place.directory argument with
  | error cause =>
      simp only [includeFile, found]
      rfl
  | ok path =>
      cases inner with
      | none =>
          simp only [includeFile, found]
          rfl
      | some same =>
          generalize readable : surroundings.files.text path = text
          generalize readableToo : others.text path = other
          have alike := files path
          rw [readable, readableToo] at alike
          cases alike with
          | unreadable =>
              simp only [includeFile, found, readable, readableToo]
              rfl
          | @readable other text asks =>
              let elsewhere : Surroundings := { surroundings with files := others }
              have foundToo : includedPath elsewhere.home place.directory argument = .ok path :=
                found
              have readToo : elsewhere.files.text path = .ok other := readableToo
              rw [includeFile_eq_leaving draft found readable,
                includeFile_eq_leaving (draft.renumbered numbering) foundToo readToo,
                same path text other draft asks, Outcome.renumbered_leaving]

theorem includeFiles_renumbered (place : Place) (arguments : List Text) (draft : Draft) :
    includeFiles { surroundings with files := others } nestedToo place arguments
        (draft.renumbered numbering) =
      (includeFiles surroundings nested place arguments draft).renumbered numbering
        place.source := by
  induction arguments generalizing draft with
  | nil => rfl
  | cons argument rest ih =>
      rw [includeFiles, includeFiles, includeFile_renumbered files inner place argument draft]
      exact Outcome.renumbered_andThen _ ih

theorem carryOut_renumbered (place : Place) (request : Request) (draft : Draft) :
    (request.renumbered (numbering place.source)).carryOut { surroundings with files := others }
        nestedToo place (draft.renumbered numbering) =
      (request.carryOut surroundings nested place draft).renumbered numbering place.source := by
  obtain ⟨number, cause | directive⟩ := request
  · rfl
  · cases directive with
    | header header =>
        have opened : (draft.renumbered numbering).openBlock header
            ⟨place.source, numbering place.source number⟩ =
              (draft.openBlock header ⟨place.source, number⟩).renumbered numbering :=
          draft.renumbered_openBlock header place.source number
        exact congrArg (fun draft => ({ draft } : Outcome)) opened
    | setting setting => exact draft.renumbered_set setting place.source
    | inclusion arguments => exact includeFiles_renumbered files inner place arguments draft

theorem carryOutAll_renumbered (place : Place) (asked : List Request) (draft : Draft) :
    carryOutAll { surroundings with files := others } nestedToo place
        (asked.map (Request.renumbered (numbering place.source))) (draft.renumbered numbering) =
      (carryOutAll surroundings nested place asked draft).renumbered numbering place.source := by
  induction asked generalizing draft with
  | nil => rfl
  | cons request rest ih =>
      have first := carryOut_renumbered files inner place request draft
      rw [List.map_cons, carryOutAll, carryOutAll, first]
      simp only [Request.renumbered]
      rw [Outcome.renumbered_within]
      exact Outcome.renumbered_andThen _ ih

end

section

variable {numbering : Text → Nat → Nat} {surroundings : Surroundings} {others : FileSystem}
  (files : ∀ path, AsksAlike (numbering path) (surroundings.files.text path) (others.text path))
include files

theorem renumbers_of_included {levels : Nat}
    (inner : Option.Rel (Renumbers numbering) (included surroundings levels)
      (included { surroundings with files := others } levels)) :
    Renumbers numbering (interpret surroundings levels)
      (interpret { surroundings with files := others } levels) := by
  intro path text changed draft asks
  rw [interpret_eq, interpret_eq, interpretLines_eq_carryOutAll, interpretLines_eq_carryOutAll,
    ← requests, ← requests, asks]
  exact carryOutAll_renumbered files inner (.ofFile path) _ draft

theorem renumbers_interpret (levels : Nat) :
    Renumbers numbering (interpret surroundings levels)
      (interpret { surroundings with files := others } levels) := by
  induction levels with
  | zero => exact renumbers_of_included files .none
  | succ levels ih => exact renumbers_of_included files (.some ih)

/-- Where every file asks for the same on other lines, parsing gives the same with other numbers. -/
theorem parseFile_renumbered (path : Path) :
    parseFile { surroundings with files := others } path =
      renumberResult numbering path (parseFile surroundings path) := by
  generalize readable : surroundings.files.text path = text
  generalize readableToo : others.text path = other
  have alike := files path
  rw [readable, readableToo] at alike
  unfold parseFile
  cases alike with
  | unreadable =>
      simp only [readable, readableToo]
      rfl
  | @readable other text asks =>
      have same : interpretAt { surroundings with files := others } 0 (.ofFile path) other
            { config := { source := path } } =
          (interpretAt surroundings 0 (.ofFile path) text
            { config := { source := path } }).renumbered numbering path :=
        renumbers_interpret files includeLimit path text other { config := { source := path } } asks
      have source : (Place.ofFile path).source = path := rfl
      simp only [readable, readableToo, parseAt, source, same]
      rcases interpretAt surroundings 0 (.ofFile path) text { config := { source := path } }
        with ⟨draft, _ | failure⟩ <;> rfl

end

end SshConfig
