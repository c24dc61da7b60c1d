import SshConfig.Proofs.Sections
import Mathlib.Logic.Relation

namespace SshConfig

/-! Where the blocks of a configuration come from.

A block tells the file and the line that opened it.  That line is there, in the file itself or
in one that it includes by way of others, and read by itself it has the header of the block.
-/

/-- Whether a file names another one in an inclusion. -/
def Includes (surroundings : Surroundings) (outer inner : Path) : Prop :=
  ∃ text line arguments argument,
    surroundings.files.text outer = .ok text ∧
    line ∈ Text.lines text ∧
    Line.read line = .ok (.directive .inclusion arguments) ∧
    argument ∈ arguments ∧
    includedPath surroundings.home (Path.parent outer) argument = .ok inner

/-- Whether a line is one that opens a block with the header. -/
inductive Opens : Text → Header → Prop where
  | host (reads : Line.read line = .ok (.directive .host arguments)) :
      Opens line (.host (arguments.map HostPattern.ofText))
  | matching (reads : Line.read line = .ok (.directive .matching arguments))
      (given : Condition.readAll arguments = .ok conditions) :
      Opens line (.matching conditions)

/-- Whether the line opens a block that is read for the file at a path. -/
def Origin.IsBelow (surroundings : Surroundings) (path : Path) (origin : Origin)
    (header : Header) : Prop :=
  Relation.ReflTransGen (Includes surroundings) path origin.source ∧
    ∃ text line,
      surroundings.files.text origin.source = .ok text ∧
      1 ≤ origin.line ∧ origin.line ≤ (Text.lines text).length ∧
      (Text.lines text)[origin.line - 1]? = some line ∧ Opens line header

namespace Stretch

/-- Whether the stretch itself, not a file that it includes, opens a block at a line. -/
def OpensAt : Stretch → Nat → Header → Prop
  | .lines number texts, position, header =>
      ∃ before line after, texts = before ++ line :: after ∧ position = number + before.length ∧
        Opens line header
  | .line number request, position, header => position = number ∧ request = some (.header header)
  | .files _, _, _ => False

/-- Whether the stretch itself names the file at a path. -/
def Names (surroundings : Surroundings) (place : Place) : Stretch → Path → Prop
  | .lines _ texts, path =>
      ∃ line ∈ texts, ∃ arguments, Line.read line = .ok (.directive .inclusion arguments) ∧
        ∃ argument ∈ arguments, includedPath surroundings.home place.directory argument = .ok path
  | .line _ request, path =>
      ∃ arguments, request = some (.inclusion arguments) ∧
        ∃ argument ∈ arguments, includedPath surroundings.home place.directory argument = .ok path
  | .files arguments, path =>
      ∃ argument ∈ arguments, includedPath surroundings.home place.directory argument = .ok path

end Stretch

theorem Opens.of_ofLine {line : Text} {header : Header}
    (reads : Directive.ofLine line = .ok (some (.header header))) : Opens line header := by
  obtain ⟨keyword, arguments, read, asks⟩ := Directive.ofLine_eq_some.mp reads
  cases asks with
  | host => exact .host read
  | matching given => exact .matching read given

/-- A file is below another one if the text of that one, as a stretch, names it. -/
theorem Origin.IsBelow.through {surroundings : Surroundings} {outer inner : Path} {text : Text}
    {origin : Origin} {header : Header} (readable : surroundings.files.text outer = .ok text)
    (named : Stretch.Names surroundings (.ofFile outer) (.lines 1 (Text.lines text)) inner)
    (below : origin.IsBelow surroundings inner header) :
    origin.IsBelow surroundings outer header := by
  obtain ⟨line, member, arguments, reads, argument, given, found⟩ := named
  have includes : Includes surroundings outer inner :=
    ⟨text, line, arguments, argument, readable, member, reads, given, found⟩
  exact ⟨.head includes below.1, below.2⟩

/-- A line of a file that opens a block is below that file. -/
theorem Origin.IsBelow.here {surroundings : Surroundings} {path : Path} {text : Text}
    {origin : Origin} {header : Header} (readable : surroundings.files.text path = .ok text)
    (source : origin.source = path)
    (opens : Stretch.OpensAt (.lines 1 (Text.lines text)) origin.line header) :
    origin.IsBelow surroundings path header := by
  obtain ⟨before, line, after, cut, position, opened⟩ := opens
  subst source
  refine ⟨.refl, text, line, readable, ?_, ?_, ?_, opened⟩
  · omega
  · rw [cut, List.length_append, List.length_cons]
    omega
  · rw [cut, show origin.line - 1 = before.length by omega]
    simp

theorem Flattens.opens {surroundings : Surroundings} {place : Place} {stretch : Stretch}
    {statements : List Statement} {header : Header} {origin : Origin}
    (flat : Flattens surroundings place stretch statements)
    (member : .header header origin ∈ statements) :
    (origin.source = place.source ∧ stretch.OpensAt origin.line header) ∨
      ∃ path, stretch.Names surroundings place path ∧
        origin.IsBelow surroundings path header := by
  induction flat with
  | noLine | nothing | noFile => cases member
  | setting => simp at member
  | header =>
      obtain ⟨rfl, rfl⟩ : _ = _ ∧ _ = _ := by simpa using member
      exact .inl ⟨rfl, rfl, rfl⟩
  | @oneLine line request place number statements lines later reads first rest firstIH restIH =>
      rcases List.mem_append.mp member with own | others
      · rcases firstIH own with ⟨source, position, asked⟩ | ⟨path, named, below⟩
        · rw [asked] at reads
          exact .inl ⟨source, [], line, lines, rfl, position, .of_ofLine reads⟩
        · obtain ⟨arguments, asked, names⟩ := named
          rw [asked] at reads
          obtain ⟨keyword, _, read, asks⟩ := Directive.ofLine_eq_some.mp reads
          cases asks
          exact .inr ⟨path, ⟨line, by simp, arguments, read, names⟩, below⟩
      · rcases restIH others with ⟨source, before, opening, after, rfl, position, opens⟩ |
          ⟨path, ⟨naming, among, names⟩, below⟩
        · refine .inl ⟨source, line :: before, opening, after, rfl, ?_, opens⟩
          simp only [position, List.length_cons]
          omega
        · exact .inr ⟨path, ⟨naming, by simp [among], names⟩, below⟩
  | inclusion files filesIH =>
      rcases filesIH member with ⟨_, impossible⟩ | ⟨path, names, below⟩
      · cases impossible
      · exact .inr ⟨path, ⟨_, rfl, names⟩, below⟩
  | oneFile found readable holds first rest firstIH restIH =>
      obtain rfl := Path.isDirectoryOf_iff.mp holds
      rcases List.mem_append.mp member with own | others
      · refine .inr ⟨_, ⟨_, by simp, found⟩, ?_⟩
        rcases firstIH own with ⟨source, opens⟩ | ⟨inner, named, below⟩
        · exact .here readable source opens
        · exact below.through readable named
      · rcases restIH others with ⟨_, impossible⟩ | ⟨path, ⟨argument, among, found⟩, below⟩
        · cases impossible
        · exact .inr ⟨path, ⟨argument, by simp [among], found⟩, below⟩

theorem header_mem_of_mem_sections {statements : List Statement} {part : Section}
    (member : part ∈ sections statements) : .header part.header part.origin ∈ statements := by
  induction statements with
  | nil => cases member
  | cons statement rest ih =>
      cases statement with
      | setting setting => exact List.mem_cons_of_mem _ (ih member)
      | header header origin =>
          rcases List.mem_cons.mp member with rfl | later
          · exact List.mem_cons_self
          · exact List.mem_cons_of_mem _ (ih later)

/-- Every block of a file that is parsed tells the line that opened it, in that file or in one
that it includes. -/
theorem parseFile_origin {surroundings : Surroundings} {path : Path} {config : Config}
    (parsed : parseFile surroundings path = .ok config) :
    ∀ block ∈ config.blocks, block.origin.IsBelow surroundings path block.header := by
  intro block member
  unfold parseFile at parsed
  split at parsed
  · cases parsed
  · rename_i text readable
    obtain ⟨statements, flat, rfl⟩ := parseAt_eq_ofStatements parsed
    obtain ⟨part, written, rfl⟩ := List.mem_map.mp member
    rcases flat.opens (header_mem_of_mem_sections written) with
      ⟨source, opens⟩ | ⟨inner, named, below⟩
    · exact .here readable source opens
    · exact below.through readable named

/-- A block that an included file opens has its line there, and the block after it has its line
in the file that goes on. -/
theorem parseFile_origin_inclusion :
    let outer := "# first\nInclude i\nHost b".toList.map Char.toUInt8
    let inner := "Port 2\nHost a".toList.map Char.toUInt8
    let surroundings : Surroundings :=
      ⟨fun path => .ok (if path = "/c/o".toList then outer else inner), {}⟩
    let config : Config :=
      { options := { port := some 2 }
        blocks :=
          [⟨.host [⟨['a'], false⟩], ⟨"/c/i".toList, 2⟩, {}⟩,
            ⟨.host [⟨['b'], false⟩], ⟨"/c/o".toList, 3⟩, {}⟩]
        source := "/c/o".toList }
    parseFile surroundings "/c/o".toList = .ok config ∧
      ∀ block ∈ config.blocks, block.origin.IsBelow surroundings "/c/o".toList block.header := by
  intro outer inner surroundings config
  have parsed : parseFile surroundings "/c/o".toList = .ok config := rfl
  exact ⟨parsed, parseFile_origin parsed⟩

end SshConfig
