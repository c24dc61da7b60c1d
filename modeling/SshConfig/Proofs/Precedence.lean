import SshConfig.Directive

namespace SshConfig

/-! Options from several sources, read option by option.

Sources are absorbed one after the other, each into what the earlier ones left.  What
comes out can be said of each option by itself: it has the first value that any source
gives, the files of all sources are there in order, and a text is the first that is not
empty.  That absorbing is associative is what lets the first source be split off.
-/

/-- The text among several that counts: the first that is not empty, or the empty one if
there is no other. -/
def firstText (texts : List Text) : Option Text :=
  (texts.find? fun text => text ≠ []).or (if texts = [] then none else some [])

/-- What several sources give together, an earlier one before a later. -/
def Options.ofSources (sources : List Options) : Options where
  identityAgent := sources.findSome? Options.identityAgent
  identityFiles := sources.flatMap Options.identityFiles
  hostname := firstText (sources.filterMap Options.hostname)
  user := firstText (sources.filterMap Options.user)
  port := sources.findSome? Options.port

/-- The options of a source that gives one setting only. -/
def Setting.options : Setting → Options
  | .hostname name => { hostname := some name }
  | .identityAgent agent => { identityAgent := some agent }
  | .identityFile path => { identityFiles := [path] }
  | .port number => { port := some number }
  | .user name => { user := some name }

@[simp] theorem fillText_none (held : Option Text) : fillText held none = held := by
  rcases held with _ | _ | _ <;> rfl

@[simp] theorem none_fillText (offered : Option Text) : fillText none offered = offered := by
  cases offered <;> rfl

theorem fillText_assoc (first second third : Option Text) :
    fillText (fillText first second) third = fillText first (fillText second third) := by
  rcases first with _ | _ | _ <;> rcases second with _ | _ | _ <;> cases third <;> rfl

theorem firstText_cons (text : Text) (texts : List Text) :
    firstText (text :: texts) = fillText (some text) (firstText texts) := by
  cases text with
  | cons c rest => rfl
  | nil =>
      have later : firstText ([] :: texts) =
          (texts.find? fun text => text ≠ []).or (some []) := by
        simp [firstText]
      rw [later, firstText]
      cases texts.find? fun text => text ≠ [] with
      | some found => rfl
      | none => by_cases given : texts = [] <;> simp [given, fillText]

theorem firstText_filterMap_cons {α : Type} (offer : α → Option Text) (source : α)
    (sources : List α) :
    firstText ((source :: sources).filterMap offer) =
      fillText (offer source) (firstText (sources.filterMap offer)) := by
  cases offered : offer source with
  | none => rw [List.filterMap_cons_none offered, none_fillText]
  | some text => rw [List.filterMap_cons_some offered, firstText_cons]

namespace Options

@[simp] theorem absorb_empty (options : Options) : options.absorb {} = options := by
  simp [absorb]

@[simp] theorem empty_absorb (options : Options) : absorb {} options = options := by
  simp [absorb]

theorem absorb_assoc (first second third : Options) :
    (first.absorb second).absorb third = first.absorb (second.absorb third) := by
  simp [absorb, fillText_assoc, Option.or_assoc]

@[simp] theorem ofSources_nil : ofSources [] = {} := rfl

theorem ofSources_cons (source : Options) (sources : List Options) :
    ofSources (source :: sources) = source.absorb (ofSources sources) := by
  have findSome (β : Type) (value : Options → Option β) :
      (source :: sources).findSome? value = (value source).or (sources.findSome? value) := by
    cases given : value source <;> simp [given]
  simp only [ofSources, absorb, findSome, List.flatMap_cons, firstText_filterMap_cons]

theorem ofSources_append (sources more : List Options) :
    ofSources (sources ++ more) = (ofSources sources).absorb (ofSources more) := by
  induction sources with
  | nil => simp
  | cons source rest ih => rw [List.cons_append, ofSources_cons, ih, ofSources_cons, absorb_assoc]

/-- What several groups of sources give together is what all their sources give. -/
theorem ofSources_map_ofSources (groups : List (List Options)) :
    ofSources (groups.map ofSources) = ofSources groups.flatten := by
  induction groups with
  | nil => rfl
  | cons group rest ih =>
      rw [List.map_cons, ofSources_cons, ih, List.flatten_cons, ofSources_append]

/-- Absorbing sources one by one gives every option its first value. -/
theorem foldl_absorb (sources : List Options) (options : Options) :
    sources.foldl absorb options = ofSources (options :: sources) := by
  induction sources generalizing options with
  | nil => simp [ofSources_cons]
  | cons source sources ih =>
      rw [List.foldl_cons, ih]
      simp only [ofSources_cons, absorb_assoc]

end Options

theorem Setting.apply_eq_absorb (setting : Setting) (options : Options) :
    setting.apply options = options.absorb setting.options := by
  cases setting <;> simp [apply, Options.absorb, Setting.options]

end SshConfig
