import ViewportScaling.Proofs.Media.Passes

/-!
# What a pass appends, said without a pass

The blocks of a pass are described by one closed function of the settings and the direct rules of a sheet.
For each rule and each class of viewport it lists the parts that belong to the class: the capped width of
the root container, a copy of each length scaled by the ratio of the class, and the width that replaces
a pattern; the declarations that both classes need go to the shared block if both are enabled and to the
only enabled one otherwise. Each block groups what it got by selector. The main statement says that a pass
which succeeds appends exactly these blocks.
-/

namespace ViewportScaling.Media

open Css Document Numeric Scaling

/-- A class of viewport that gets a block of its own. -/
inductive View where
  /-- A desktop viewport. -/
  | desktop
  /-- A phone held sideways. -/
  | landscape
deriving DecidableEq, Repr

namespace View

/-- The block of a class. -/
def block : View → Block
  | desktop => .desktop
  | landscape => .landscape

/-- Whether a class is enabled. -/
def enabled (settings : Settings) : View → Bool
  | desktop => !settings.disableDesktop
  | landscape => !settings.disableLandscape

/-- The width of the page in a class. -/
def targetWidth (settings : Settings) : View → Number
  | desktop => settings.desktopWidth
  | landscape => settings.landscapeWidth

/-- The factor of lengths in a class: its width over the width of the design. -/
def ratio (settings : Settings) (view : View) : Except ArithmeticError Double :=
  (view.targetWidth settings).ratio settings.viewportWidth

end View

/-! ### The parts of a rule -/

/-- A width in pixels as it is printed. -/
def pixels (width : Number) : String := width.plainText ++ "px"

/-- What centres a box: equal margins on both sides. -/
def centring : List Declaration := [⟨"margin-left", "auto", true⟩, ⟨"margin-right", "auto", true⟩]

/-- What the classes share about the root container. -/
def rootCommon (settings : Settings) : List Declaration :=
  centring ++
    if settings.border then
      [⟨"box-sizing", "content-box", false⟩, ⟨"border-left", "1px solid #eee", false⟩,
        ⟨"border-right", "1px solid #eee", false⟩, ⟨"min-height", "100vh", false⟩,
        ⟨"height", "auto", true⟩]
    else []

/-- What the classes share about a fixed bar. -/
def barCommon : List Declaration := centring ++ [⟨"left", "0", true⟩, ⟨"right", "0", true⟩]

/-- Whether some declaration gives a property a value. -/
def declares (declarations : List Declaration) (property value : String) : Bool :=
  declarations.any fun declaration =>
    declaration.property == property && declaration.value == value

/-- Whether a rule describes a fixed bar of full width. -/
def isFixedBar (declarations : List Declaration) : Bool :=
  declares declarations "position" "fixed" &&
    (declares declarations "width" "100%" || declares declarations "width" "100vw")

/-- Whether both classes are enabled. -/
def bothEnabled (settings : Settings) : Bool :=
  View.desktop.enabled settings && View.landscape.enabled settings

/-- What an enabled class gets of declarations of its own and common ones. -/
def share (settings : Settings) (own common : List Declaration) : List Declaration :=
  if bothEnabled settings then own else own ++ common

/-- A declaration with its lengths scaled by a ratio. -/
def scaledDeclaration (ratio : Except ArithmeticError Double) (declaration : Declaration) :
    Except ArithmeticError Declaration := do
  return { declaration with value := ← scaleValue (.double (← ratio)) declaration.value }

/-- The declarations that hold a length, with their lengths scaled by a ratio. -/
def scaledDeclarations (ratio : Except ArithmeticError Double) (declarations : List Declaration) :
    Except ArithmeticError (List Declaration) :=
  (declarations.filter fun declaration => hasLength declaration.value.toList).mapM
    (scaledDeclaration ratio)

/-- What an enabled class gets from a rule with a selector: first what the root container needs, then
the scaled lengths, then what replaces a width pattern. -/
def viewParts (settings : Settings) (view : View) (selector : String)
    (declarations : List Declaration) : Except ArithmeticError (List (List Declaration)) := do
  let width := pixels (view.targetWidth settings)
  let scaled ← scaledDeclarations (view.ratio settings) declarations
  return (if selector = "." ++ settings.rootClass then
      [share settings [⟨"max-width", width, true⟩] (rootCommon settings)] else []) ++
    scaled.map (fun declaration => [declaration]) ++
    if isFixedBar declarations then [share settings [⟨"width", width, false⟩] barCommon]
    else if declares declarations "width" "100vw" then [[⟨"width", width, false⟩]]
    else []

/-- What both classes get from a rule together. -/
def sharedParts (settings : Settings) (selector : String) (declarations : List Declaration) :
    List (List Declaration) :=
  if bothEnabled settings then
    (if selector = "." ++ settings.rootClass then [rootCommon settings] else []) ++
      if isFixedBar declarations then [barCommon] else []
  else []

/-! ### The blocks of a sheet -/

/-- The parts that a block gets from one rule, each under the selector of the rule. -/
def rulePart (settings : Settings) (block : Block) (rule : String × List Declaration) :
    Except ArithmeticError (List (String × List Declaration)) :=
  let labelled := List.map fun part => (rule.1, part)
  match block with
  | .desktop =>
    if View.desktop.enabled settings then labelled <$> viewParts settings .desktop rule.1 rule.2
    else .ok []
  | .landscape =>
    if View.landscape.enabled settings then labelled <$> viewParts settings .landscape rule.1 rule.2
    else .ok []
  | .shared => .ok (labelled (sharedParts settings rule.1 rule.2))

/-- The parts that a block gets from rules, in order. -/
def blockParts (settings : Settings) (block : Block) (rules : List (String × List Declaration)) :
    Except ArithmeticError (List (String × List Declaration)) :=
  List.flatten <$> rules.mapM (rulePart settings block)

/-- The blocks that a pass appends to a sheet with given direct rules: the desktop block and the landscape
block if they got anything, and the shared block if both of them did. -/
def specification (settings : Settings) (rules : List (String × List Declaration)) :
    Except ArithmeticError (List Node) := do
  let desktop ← blockParts settings .desktop rules
  let landscape ← blockParts settings .landscape rules
  let shared ← blockParts settings .shared rules
  return (if desktop = [] then [] else [.media settings.desktopParams (grouped desktop)]) ++
    (if landscape = [] then [] else [.media settings.landscapeParams (grouped landscape)]) ++
    if desktop = [] ∨ landscape = [] then [] else [.media settings.sharedParams (grouped shared)]

/-! ### Contributions spell the parts -/

/-- One list behind another, where both are there. -/
def joined {α : Type} (first second : Except ArithmeticError (List α)) :
    Except ArithmeticError (List α) := do
  return (← first) ++ (← second)

@[simp] theorem joined_ok {α : Type} (first second : List α) :
    joined (.ok first) (.ok second) = .ok (first ++ second) := rfl

@[simp] theorem joined_nil {α : Type} (first : Except ArithmeticError (List α)) :
    joined first (.ok []) = first := by
  cases first with
  | error error => rfl
  | ok front => rw [joined_ok, List.append_nil]

@[simp] theorem nil_joined {α : Type} (second : Except ArithmeticError (List α)) :
    joined (.ok []) second = second := by
  cases second <;> rfl

theorem joined_eq_ok_iff {α : Type} {first second : Except ArithmeticError (List α)}
    {result : List α} : joined first second = .ok result ↔
      ∃ front back, first = .ok front ∧ second = .ok back ∧ result = front ++ back := by
  cases first with
  | error error => simp [joined, bind, Except.bind]
  | ok front =>
    cases second with
    | error error => simp [joined, bind, Except.bind]
    | ok back => simp [eq_comm]

/-- A contribution spells the parts of the blocks: it stops with an error exactly if some block has no
parts, and otherwise its emissions are the parts of each block. -/
structure Spells (trace : Trace)
    (parts : Block → Except ArithmeticError (List (String × List Declaration))) : Prop where
  /-- The emissions of a contribution without error. -/
  sound : trace.error = none → ∀ block, parts block = .ok (entriesFor block trace.emissions)
  /-- A contribution is without error if all blocks have parts. -/
  complete : (∀ block, ∃ entries, parts block = .ok entries) → trace.error = none

/-- Two contributions go through just if both do. -/
theorem error_append_iff (first second : Trace) :
    (first ++ second).error = none ↔ first.error = none ∧ second.error = none := by
  rw [Trace.append_def]
  cases stopped : first.error with
  | none => simp
  | some error => simp [stopped]

/-- What comes after a contribution that does not stop is emitted behind it. -/
theorem emissions_append {first second : Trace} (success : first.error = none) :
    (first ++ second).emissions = first.emissions ++ second.emissions := by
  rw [Trace.append_def, success]
  rfl

/-- A contribution without error spells its own emissions. -/
theorem Spells.pure {trace : Trace} (success : trace.error = none) :
    Spells trace fun block => .ok (entriesFor block trace.emissions) :=
  ⟨fun _ _ => rfl, fun _ => success⟩

/-- One contribution after another spells the parts of both. -/
theorem Spells.append {first second : Trace}
    {parts parts' : Block → Except ArithmeticError (List (String × List Declaration))}
    (h : Spells first parts) (k : Spells second parts') :
    Spells (first ++ second) fun block => joined (parts block) (parts' block) := by
  refine ⟨fun success block => ?_, fun all => ?_⟩
  · obtain ⟨early, late⟩ := (error_append_iff first second).1 success
    rw [h.sound early, k.sound late, joined_ok, emissions_append early, entriesFor_append]
  · rw [error_append_iff]
    refine ⟨h.complete fun block => ?_, k.complete fun block => ?_⟩
    · obtain ⟨entries, found⟩ := all block
      obtain ⟨front, _, early, -, -⟩ := joined_eq_ok_iff.1 found
      exact ⟨front, early⟩
    · obtain ⟨entries, found⟩ := all block
      obtain ⟨_, back, -, late, -⟩ := joined_eq_ok_iff.1 found
      exact ⟨back, late⟩

/-! ### Scaled lengths -/

/-- The scaled lengths that a class gets, each under a selector. -/
def lengthParts (settings : Settings) (selector : String) (declarations : List Declaration)
    (view : View) : Except ArithmeticError (List (String × List Declaration)) :=
  if view.enabled settings then
    (List.map fun declaration => (selector, [declaration])) <$>
      scaledDeclarations (view.ratio settings) declarations
  else .ok []

/-- The scaled lengths that a block gets. -/
def blockLengths (settings : Settings) (selector : String) (declarations : List Declaration) :
    Block → Except ArithmeticError (List (String × List Declaration))
  | .desktop => lengthParts settings selector declarations .desktop
  | .landscape => lengthParts settings selector declarations .landscape
  | .shared => .ok []

/-- Declarations are scaled one by one, and all of them or none. -/
theorem scaledDeclarations_append (ratio : Except ArithmeticError Double)
    (first second : List Declaration) :
    scaledDeclarations ratio (first ++ second) =
      joined (scaledDeclarations ratio first) (scaledDeclarations ratio second) := by
  rw [scaledDeclarations, List.filter_append, List.mapM_append]
  rfl

/-- So the lengths of two rows of declarations are those of the first and those of the second. -/
theorem lengthParts_append (settings : Settings) (selector : String)
    (first second : List Declaration) (view : View) :
    lengthParts settings selector (first ++ second) view =
      joined (lengthParts settings selector first view)
        (lengthParts settings selector second view) := by
  unfold lengthParts
  split
  · rw [scaledDeclarations_append]
    cases scaledDeclarations (view.ratio settings) first with
    | error error => rfl
    | ok front =>
      cases scaledDeclarations (view.ratio settings) second with
      | error error => rfl
      | ok back => exact congrArg Except.ok List.map_append
  · rfl

/-- A copy of a declaration for one block, if its value can be scaled. -/
theorem scaledCopy_eq (block : Block) (ratio : Except ArithmeticError Double) (selector : String)
    (declaration : Declaration) : scaledCopy block ratio selector declaration =
      .ofExcept ((fun copy => .emit block selector [copy]) <$> scaledDeclaration ratio declaration) := by
  unfold scaledCopy scaledDeclaration
  cases ratio with
  | error error => rfl
  | ok ratio =>
    change Trace.ofExcept (scaleValue _ _ >>= _) = Trace.ofExcept (_ <$> (scaleValue _ _ >>= _))
    cases scaleValue (.double ratio) declaration.value <;> rfl

/-- A copy for the block of a class is what the class gets of the declaration alone. -/
theorem spells_scaledCopy (settings : Settings) (selector : String) {declaration : Declaration}
    (holds : hasLength declaration.value.toList = true) (view : View) :
    Spells (if view.enabled settings then
        scaledCopy view.block (view.ratio settings) selector declaration else ∅)
      fun block => if block = view.block then lengthParts settings selector [declaration] view
        else .ok [] := by
  have single : scaledDeclarations (view.ratio settings) [declaration] =
      (fun copy => [copy]) <$> scaledDeclaration (view.ratio settings) declaration := by
    rw [scaledDeclarations, List.filter_cons, if_pos holds]
    simp
  unfold lengthParts
  rw [single, scaledCopy_eq]
  split
  · cases scaledDeclaration (view.ratio settings) declaration with
    | error error =>
      refine ⟨fun success => ?_, fun all => ?_⟩
      · cases success
      obtain ⟨entries, found⟩ := all view.block
      rw [if_pos rfl] at found
      cases found
    | ok copy =>
      refine ⟨fun _ block => ?_, fun _ => rfl⟩
      by_cases same : block = view.block
      · subst same
        simp [Trace.ofExcept, Trace.emit, entriesFor]
      · simp [Trace.ofExcept, Trace.emit, entriesFor, same, Ne.symm same]
  · refine ⟨fun _ block => ?_, fun _ => rfl⟩
    split <;> rfl

/-- A declaration without a length adds nothing. -/
theorem lengthParts_of_not_hasLength (settings : Settings) (selector : String)
    {declaration : Declaration} (none : ¬hasLength declaration.value.toList = true) (view : View) :
    lengthParts settings selector [declaration] view = .ok [] := by
  unfold lengthParts scaledDeclarations
  rw [List.filter_cons, if_neg none]
  split <;> rfl

/-- What a declaration contributes are the copies of its lengths for the enabled classes. -/
theorem spells_scaledLength (settings : Settings) (selector : String) (declaration : Declaration) :
    Spells (scaledLength settings selector declaration)
      (blockLengths settings selector [declaration]) := by
  unfold scaledLength
  split
  · rename_i holds
    have both := (spells_scaledCopy settings selector holds .desktop).append
      (spells_scaledCopy settings selector holds .landscape)
    have parts : blockLengths settings selector [declaration] = fun block =>
        joined
          (if block = View.desktop.block then lengthParts settings selector [declaration] .desktop
            else .ok [])
          (if block = View.landscape.block then
            lengthParts settings selector [declaration] .landscape else .ok []) := by
      funext block
      cases block <;> simp [blockLengths, View.block]
    rw [parts]
    exact both
  · rename_i none
    have parts : blockLengths settings selector [declaration] = fun _ => .ok [] := by
      funext block
      cases block <;> simp [blockLengths, lengthParts_of_not_hasLength _ _ none]
    rw [parts]
    exact .pure rfl

theorem lengthParts_nil (settings : Settings) (selector : String) (view : View) :
    lengthParts settings selector [] view = .ok [] := by
  unfold lengthParts
  split <;> rfl

/-- What declarations contribute are the copies of their lengths, in order. -/
theorem spells_lengths (settings : Settings) (selector : String) (declarations : List Declaration) :
    Spells (.concat (declarations.map (scaledLength settings selector)))
      (blockLengths settings selector declarations) := by
  induction declarations with
  | nil =>
    have parts : blockLengths settings selector [] = fun _ => .ok [] := by
      funext block
      cases block <;> simp [blockLengths, lengthParts_nil]
    rw [parts]
    exact .pure rfl
  | cons declaration declarations ih =>
    have parts : blockLengths settings selector (declaration :: declarations) = fun block =>
        joined (blockLengths settings selector [declaration] block)
          (blockLengths settings selector declarations block) := by
      funext block
      cases block with
      | desktop => exact lengthParts_append settings selector [declaration] declarations .desktop
      | landscape => exact lengthParts_append settings selector [declaration] declarations .landscape
      | shared => rfl
    rw [List.map_cons, Trace.concat_cons, parts]
    exact (spells_scaledLength settings selector declaration).append ih

/-! ### The root container and the width patterns -/

/-- What the blocks get of declarations that are placed: each class its own, and the common ones. -/
def placedParts (settings : Settings) (selector : String) (own : View → List Declaration)
    (common : List Declaration) : Block → List (String × List Declaration)
  | .desktop =>
    if View.desktop.enabled settings then [(selector, share settings (own .desktop) common)] else []
  | .landscape =>
    if View.landscape.enabled settings then [(selector, share settings (own .landscape) common)]
    else []
  | .shared => if bothEnabled settings then [(selector, common)] else []

/-- Placing declarations distributes them over the blocks. -/
theorem spells_place (settings : Settings) (selector : String) (own : View → List Declaration)
    (common : List Declaration) :
    Spells (place settings selector (own .desktop) (own .landscape) common)
      fun block => .ok (placedParts settings selector own common block) := by
  unfold place Settings.desktopEnabled Settings.landscapeEnabled
  refine ⟨fun _ block => ?_, fun _ => ?_⟩ <;>
    cases desktop : settings.disableDesktop <;> cases landscape : settings.disableLandscape
  all_goals first
    | rfl
    | cases block <;> simp [placedParts, share, bothEnabled, View.enabled, desktop, landscape,
        Trace.append_def, Trace.emit, entriesFor, EmptyCollection.emptyCollection]

/-- The flags raised by declarations say what the declarations declare. -/
theorem foldl_raise (flags : Flags) (declarations : List Declaration) :
    declarations.foldl Flags.raise flags =
      { fullPercent := flags.fullPercent || declares declarations "width" "100%"
        fullView := flags.fullView || declares declarations "width" "100vw"
        fixed := flags.fixed || declares declarations "position" "fixed" } := by
  induction declarations generalizing flags with
  | nil => simp [declares]
  | cons declaration declarations ih =>
    rw [List.foldl_cons, ih]
    simp [declares, Flags.raise, Bool.or_assoc]

/-- The pattern that the flags of a rule select, in terms of its declarations. -/
theorem pattern?_eq (declarations : List Declaration) :
    (Flags.of declarations).pattern? =
      if isFixedBar declarations then some .fixedBar
      else if declares declarations "width" "100vw" then some .viewWidth
      else none := by
  unfold Flags.of
  rw [foldl_raise]
  simp only [Bool.false_or, Flags.pattern?, Flags.fullWidth, isFixedBar]
  rfl

/-- What the root container needs, by blocks. -/
def rootParts (settings : Settings) (selector : String) (block : Block) :
    List (String × List Declaration) :=
  if selector = "." ++ settings.rootClass then
    placedParts settings selector (fun view => [⟨"max-width", pixels (view.targetWidth settings), true⟩])
      (rootCommon settings) block
  else []

/-- What replaces a width pattern, by blocks. -/
def patternParts (settings : Settings) (selector : String) (declarations : List Declaration)
    (block : Block) : List (String × List Declaration) :=
  let width : View → List Declaration := fun view =>
    [⟨"width", pixels (view.targetWidth settings), false⟩]
  if isFixedBar declarations then placedParts settings selector width barCommon block
  else if declares declarations "width" "100vw" then
    match block with
    | .desktop => if View.desktop.enabled settings then [(selector, width .desktop)] else []
    | .landscape => if View.landscape.enabled settings then [(selector, width .landscape)] else []
    | .shared => []
  else []

/-- The parts of an enabled class are those of the root container, its lengths, and those of its
pattern. -/
theorem labelled_viewParts {settings : Settings} {view : View} (enabled : view.enabled settings = true)
    (selector : String) (declarations : List Declaration) :
    (List.map fun part => (selector, part)) <$> viewParts settings view selector declarations =
      joined
        (joined
          (.ok (if selector = "." ++ settings.rootClass then
            [(selector, share settings [⟨"max-width", pixels (view.targetWidth settings), true⟩]
              (rootCommon settings))] else []))
          (lengthParts settings selector declarations view))
        (.ok (if isFixedBar declarations then
            [(selector, share settings [⟨"width", pixels (view.targetWidth settings), false⟩] barCommon)]
          else if declares declarations "width" "100vw" then
            [(selector, [⟨"width", pixels (view.targetWidth settings), false⟩])]
          else [])) := by
  unfold viewParts lengthParts
  rw [if_pos enabled]
  cases scaledDeclarations (view.ratio settings) declarations with
  | error error => rfl
  | ok scaled =>
    have labels : ∀ front back : List (List Declaration),
        List.map (fun part => (selector, part)) (front ++ scaled.map (fun d => [d]) ++ back) =
          List.map (fun part => (selector, part)) front ++
            scaled.map (fun d => (selector, [d])) ++ List.map (fun part => (selector, part)) back := by
      intro front back
      rw [List.map_append, List.map_append, List.map_map]
      rfl
    refine (congrArg Except.ok (labels _ _)).trans ?_
    change _ = Except.ok _
    split <;> split
    all_goals first
      | rfl
      | split <;> rfl

/-- The parts of a rule are those of the root container, its lengths, and those of its pattern. -/
theorem rulePart_eq (settings : Settings) (block : Block) (selector : String)
    (declarations : List Declaration) :
    rulePart settings block (selector, declarations) =
      joined (joined (.ok (rootParts settings selector block))
        (blockLengths settings selector declarations block))
        (.ok (patternParts settings selector declarations block)) := by
  unfold rulePart rootParts patternParts blockLengths placedParts
  cases block with
  | desktop =>
    dsimp only
    by_cases enabled : View.desktop.enabled settings = true
    · simp only [if_pos enabled, labelled_viewParts enabled]
    · simp only [if_neg enabled, lengthParts]
      simp
  | landscape =>
    dsimp only
    by_cases enabled : View.landscape.enabled settings = true
    · simp only [if_pos enabled, labelled_viewParts enabled]
    · simp only [if_neg enabled, lengthParts]
      simp
  | shared =>
    dsimp only
    unfold sharedParts
    split
    · rw [joined_nil, joined_ok, List.map_append]
      split <;> split <;> simp
    · simp

/-- A note contributes nothing to the blocks. -/
theorem spells_note (notice : Notice) : Spells (.note notice) fun _ => .ok [] :=
  .pure rfl

/-- What the root container contributes. -/
theorem spells_root (settings : Settings) (selector : String) :
    Spells (if selector = settings.rootSelector then
        .note (.rootFound selector) ++ centredRoot settings selector else ∅)
      fun block => .ok (rootParts settings selector block) := by
  unfold rootParts
  by_cases root : selector = "." ++ settings.rootClass
  · have placed := (spells_note (.rootFound selector)).append
      (spells_place settings selector
        (fun view => [⟨"max-width", pixels (view.targetWidth settings), true⟩]) (rootCommon settings))
    simp only [nil_joined] at placed
    rw [if_pos (show selector = settings.rootSelector from root)]
    simp only [if_pos root]
    exact placed
  · rw [if_neg (show ¬selector = settings.rootSelector from root)]
    simp only [if_neg root]
    exact .pure rfl

/-- What a width pattern contributes. -/
theorem spells_pattern (settings : Settings) (selector : String) (declarations : List Declaration) :
    Spells (patternContribution settings selector (Flags.of declarations))
      fun block => .ok (patternParts settings selector declarations block) := by
  unfold patternContribution patternParts
  rw [pattern?_eq]
  by_cases bar : isFixedBar declarations = true
  · simp only [if_pos bar]
    exact spells_place settings selector
      (fun view => [⟨"width", pixels (view.targetWidth settings), false⟩]) barCommon
  · simp only [if_neg bar]
    by_cases wide : declares declarations "width" "100vw" = true
    · simp only [if_pos wide]
      unfold Pattern.contribution Settings.desktopEnabled Settings.landscapeEnabled View.enabled
      refine ⟨fun _ block => ?_, fun _ => ?_⟩ <;>
        cases desktop : settings.disableDesktop <;> cases landscape : settings.disableLandscape
      all_goals first
        | rfl
        | cases block <;> rfl
    · simp only [if_neg wide]
      exact .pure rfl

/-- What a rule contributes are its parts. -/
theorem spells_contribution (settings : Settings) (selector : String)
    (declarations : List Declaration) :
    Spells (contribution settings selector declarations)
      fun block => rulePart settings block (selector, declarations) := by
  simp only [rulePart_eq]
  unfold contribution
  dsimp only
  have parts := ((spells_root settings selector).append
    (spells_lengths settings selector declarations)).append
      (spells_pattern settings selector declarations)
  cases (Flags.of declarations).pattern? with
  | none =>
    have silent := parts.append (show Spells ∅ fun _ => .ok [] from .pure rfl)
    simp only [joined_nil] at silent
    exact silent
  | some pattern =>
    have noted := parts.append (spells_note (.patternFound selector pattern.name))
    simp only [joined_nil] at noted
    exact noted

/-- What rules contribute are the parts of the blocks. -/
theorem spells_contributions (settings : Settings) (rules : List (String × List Declaration)) :
    Spells (contributions settings rules) fun block => blockParts settings block rules := by
  unfold contributions
  induction rules with
  | nil => exact .pure rfl
  | cons rule rules ih =>
    have parts : (fun block => blockParts settings block (rule :: rules)) = fun block =>
        joined (rulePart settings block rule) (blockParts settings block rules) := by
      funext block
      unfold blockParts
      rw [List.mapM_cons]
      cases rulePart settings block rule with
      | error error => rfl
      | ok front =>
        cases rules.mapM (rulePart settings block) <;> rfl
    rw [List.map_cons, Trace.concat_cons, parts]
    exact (spells_contribution settings rule.1 rule.2).append ih

/-! ### Passes append what is specified -/

/-- The blocks of the specification are the blocks of the parts. -/
theorem specification_eq_ok {settings : Settings} {rules : List (String × List Declaration)}
    {parts : Block → List (String × List Declaration)}
    (found : ∀ block, blockParts settings block rules = .ok (parts block)) :
    specification settings rules = .ok (blockNodes settings parts) := by
  unfold specification
  rw [found .desktop, found .landscape, found .shared]
  refine congrArg Except.ok ?_
  unfold blockNodes wantedBlocks
  by_cases desktop : parts .desktop = [] <;> by_cases landscape : parts .landscape = [] <;>
    simp [desktop, landscape, Block.params]

/-- Where the specification gives blocks, every block has parts. -/
theorem exists_blockParts {settings : Settings} {rules : List (String × List Declaration)}
    {blocks : List Node} (found : specification settings rules = .ok blocks) (block : Block) :
    ∃ parts, blockParts settings block rules = .ok parts := by
  unfold specification at found
  cases desktop : blockParts settings .desktop rules with
  | error error =>
    rw [desktop] at found
    cases found
  | ok first =>
    cases landscape : blockParts settings .landscape rules with
    | error error =>
      rw [desktop, landscape] at found
      cases found
    | ok second =>
      cases shared : blockParts settings .shared rules with
      | error error =>
        rw [desktop, landscape, shared] at found
        cases found
      | ok third =>
        cases block with
        | desktop => exact ⟨first, desktop⟩
        | landscape => exact ⟨second, landscape⟩
        | shared => exact ⟨third, shared⟩

/-- A pass over a coherent sheet succeeds exactly if the specification gives blocks for the direct rules
of the sheet, and then it appends these blocks to the trees of the sheet. -/
theorem pass_appends_specification {store : Store} {sheet : Id} (coherent : store.Coherent sheet)
    (settings : Settings) :
    ((pass settings store sheet).error = none ↔
      ∃ blocks, specification settings (store.directRules sheet) = .ok blocks) ∧
    ∀ blocks, specification settings (store.directRules sheet) = .ok blocks →
      (pass settings store sheet).store.nodes sheet = store.nodes sheet ++ blocks := by
  have spells := spells_contributions settings (store.directRules sheet)
  have spec_of_success : (pass settings store sheet).error = none →
      specification settings (store.directRules sheet) =
        .ok (blockNodes settings (passEntries settings store sheet)) := by
    intro success
    rw [error_pass coherent] at success
    exact specification_eq_ok (spells.sound success)
  have success_of_spec : (∃ blocks, specification settings (store.directRules sheet) = .ok blocks) →
      (pass settings store sheet).error = none := by
    rintro ⟨blocks, found⟩
    rw [error_pass coherent]
    exact spells.complete (exists_blockParts found)
  refine ⟨⟨fun success => ⟨_, spec_of_success success⟩, success_of_spec⟩, fun blocks found => ?_⟩
  have success := success_of_spec ⟨blocks, found⟩
  have same := (spec_of_success success).symm.trans found
  rw [Except.ok.injEq] at same
  rw [nodes_pass coherent success, addedBlocks_eq coherent success, same]

/-- A page whose root container has a scaled width next to what centres it. -/
theorem pass_appends_specification_page :
    let page := ({} : Store).plantSheet [.rule ".page" [⟨"width", "75px", false⟩]]
    let settings : Settings := { rootClass := "page", disableLandscape := true }
    page.2.Coherent page.1 ∧ (pass settings page.2 page.1).store.nodes page.1 =
      [.rule ".page" [⟨"width", "75px", false⟩],
        .media settings.desktopParams
          [(".page", [⟨"max-width", "600px", true⟩, ⟨"margin-left", "auto", true⟩,
            ⟨"margin-right", "auto", true⟩, ⟨"width", "60.000px", false⟩])]] := by
  intro page settings
  have planted : page.2.IsPlantedSheet page.1 _ := Store.isPlantedSheet_plantSheet _
  have found : specification settings (page.2.directRules page.1) =
      .ok [.media settings.desktopParams
        [(".page", [⟨"max-width", "600px", true⟩, ⟨"margin-left", "auto", true⟩,
          ⟨"margin-right", "auto", true⟩, ⟨"width", "60.000px", false⟩])]] := by
    rw [planted.directRules_eq]
    decide +kernel
  refine ⟨planted.coherent, ?_⟩
  rw [(pass_appends_specification planted.coherent settings).2 _ found, planted.nodes_eq]
  rfl

end ViewportScaling.Media
