import FeatureFlags.Yaml.Graph
import Mathlib

/-!
# `Proofs.Yaml.Failure` — how the reading of a YAML text can fail

A text that is not well formed is malformed, and that is what nearly all steps of the lexer and of the reader
fail with.  There are four other ways: collections are nested too deeply, a version has too many digits, or
a numeric escape gives no character, because it is too large for an integer of the machine or for a code
point.  `Spoils` lists them, and every step is shown to fail with nothing else, from the characters up to the
document (`spoils_of_ofText`).

## Contents

1. Failures
2. Characters and breaks
3. Scalars
4. Simple keys, directives and tags
5. Tokens
6. Nodes and documents
-/

namespace FeatureFlags

namespace Yaml

open Std.Do

set_option mvcgen.warning false

/-! ## Failures -/

/-- What the reading of a text can fail with. -/
inductive Spoils : Error → Prop where
  | malformed : Spoils .malformed
  | tooDeep : Spoils .tooDeep
  /-- A version has more digits than are read. -/
  | versionTooLong (digits : Nat) (h : Numeral.digitLimit < digits) :
      Spoils (.value ⟨.value, Numeral.tooLongText digits⟩)
  /-- A numeric escape does not fit into an integer of the machine. -/
  | escapeTooLarge : Spoils (.value ⟨.overflow, "Python int too large to convert to C int"⟩)
  /-- A numeric escape lies beyond the last code point. -/
  | escapeOutOfRange : Spoils (.value ⟨.value, "chr() arg not in range(0x110000)"⟩)

/-- A step may fail, but only in one of certain ways. -/
abbrev raising {σ α : Type} (P : Error → Prop) : PostCond α (.arg σ (.except Error .pure)) :=
  post⟨fun _ => ⌜True⌝, fun e => ⌜P e⌝⟩

/-- What a step is allowed to fail with is what it fails with when it is run. -/
theorem raising_iff {σ α : Type} {P : Error → Prop} {x : StateT σ (Except Error) α} :
    ⦃⌜True⌝⦄ x ⦃raising P⦄ ↔ ∀ s e, x.run s = .error e → P e := by
  constructor
  · intro h s e he
    have hs : ((Except.instWP.wp (x s)).apply (fun _ => ⌜True⌝, fun e => ⌜P e⌝, PUnit.unit)).down :=
      h s trivial
    rw [show x s = .error e from he] at hs
    exact hs
  · intro h s _
    show ((Except.instWP.wp (x s)).apply (fun _ => ⌜True⌝, fun e => ⌜P e⌝, PUnit.unit)).down
    cases hx : x s with
    | ok a => trivial
    | error e => exact h s e hx

/-- To fail in one of these ways is to fail in one of them. -/
@[spec]
theorem throw_spec {σ α : Type} {P : Error → Prop} {e : Error} (h : P e) :
    ⦃⌜True⌝⦄ (throw e : StateT σ (Except Error) α) ⦃raising P⦄ := by
  refine raising_iff.mpr fun s e' he => ?_
  obtain rfl := Except.error.inj he
  exact h

/-- A step of the reading may fail, but with nothing else. -/
abbrev spoiling {σ α : Type} : PostCond α (.arg σ (.except Error .pure)) := raising Spoils

/-! ## Characters and breaks -/

namespace Scan

@[spec]
theorem fail_spec {α : Type} : ⦃⌜True⌝⦄ (fail : Scan α) ⦃spoiling⦄ := throw_spec .malformed

@[spec]
theorem peek_spec : ⦃⌜True⌝⦄ peek ⦃spoiling⦄ := by mvcgen [peek]

@[spec]
theorem peekAt_spec (n : Nat) : ⦃⌜True⌝⦄ peekAt n ⦃spoiling⦄ := by mvcgen [peekAt]

@[spec]
theorem forward_spec (n : Nat) : ⦃⌜True⌝⦄ forward n ⦃spoiling⦄ := by mvcgen [forward]

@[spec]
theorem takeWhile_spec (p : Char → Bool) : ⦃⌜True⌝⦄ takeWhile p ⦃spoiling⦄ := by mvcgen [takeWhile]

@[spec]
theorem skipBlanks_spec : ⦃⌜True⌝⦄ skipBlanks ⦃spoiling⦄ := by mvcgen [skipBlanks]

@[spec]
theorem skipLine_spec : ⦃⌜True⌝⦄ skipLine ⦃spoiling⦄ := by mvcgen [skipLine]

@[spec]
theorem takeBreak_spec : ⦃⌜True⌝⦄ takeBreak ⦃spoiling⦄ := by mvcgen [takeBreak]

@[spec]
theorem endLine_spec : ⦃⌜True⌝⦄ endLine ⦃spoiling⦄ := by mvcgen [endLine]

@[spec]
theorem bound_spec : ⦃⌜True⌝⦄ bound ⦃spoiling⦄ := by mvcgen [bound]

end Scan

/-! ## Scalars -/

@[spec]
theorem quotedBreaks_spec (fuel : Nat) : ⦃⌜True⌝⦄ quotedBreaks fuel ⦃spoiling⦄ := by
  induction fuel with
  | zero => mvcgen [quotedBreaks]
  | succ fuel ih => mvcgen [quotedBreaks, ih]

@[spec]
theorem quotedGap_spec : ⦃⌜True⌝⦄ quotedGap ⦃spoiling⦄ := by mvcgen [quotedGap]

@[spec]
theorem hexCode_spec (width : Nat) : ⦃⌜True⌝⦄ hexCode width ⦃spoiling⦄ := by mvcgen [hexCode]

@[spec]
theorem escapedChar_spec (code : Nat) : ⦃⌜True⌝⦄ escapedChar code ⦃spoiling⦄ := by
  mvcgen [escapedChar, -Spec.throw_MonadExcept]
  · exact fun _ => .escapeTooLarge
  · exact fun _ => .escapeOutOfRange

@[spec]
theorem escape_spec : ⦃⌜True⌝⦄ escape ⦃spoiling⦄ := by mvcgen [escape]

@[spec]
theorem quotedWord_spec (double : Bool) (fuel : Nat) : ⦃⌜True⌝⦄ quotedWord double fuel ⦃spoiling⦄ := by
  induction fuel with
  | zero => mvcgen [quotedWord]
  | succ fuel ih => mvcgen [quotedWord, ih]

@[spec]
theorem quotedRest_spec (quote : Char) (fuel : Nat) : ⦃⌜True⌝⦄ quotedRest quote fuel ⦃spoiling⦄ := by
  induction fuel with
  | zero => mvcgen [quotedRest]
  | succ fuel ih => mvcgen [quotedRest, ih]

@[spec]
theorem quotedScalar_spec (quote : Char) : ⦃⌜True⌝⦄ quotedScalar quote ⦃spoiling⦄ := by
  mvcgen [quotedScalar]

@[spec]
theorem indentDigit_spec : ⦃⌜True⌝⦄ indentDigit ⦃spoiling⦄ := by mvcgen [indentDigit]

@[spec]
theorem blockHead_spec : ⦃⌜True⌝⦄ blockHead ⦃spoiling⦄ := by mvcgen [blockHead]

@[spec]
theorem measureIndent_spec (fuel : Nat) : ⦃⌜True⌝⦄ measureIndent fuel ⦃spoiling⦄ := by
  induction fuel with
  | zero => mvcgen [measureIndent]
  | succ fuel ih => mvcgen [measureIndent, ih]

@[spec]
theorem skipIndent_spec (indent : Nat) : ⦃⌜True⌝⦄ skipIndent indent ⦃spoiling⦄ := by mvcgen [skipIndent]

@[spec]
theorem blockBreaks_spec (indent : Nat) (fuel : Nat) : ⦃⌜True⌝⦄ blockBreaks indent fuel ⦃spoiling⦄ := by
  induction fuel with
  | zero => mvcgen [blockBreaks]
  | succ fuel ih => mvcgen [blockBreaks, ih]

@[spec]
theorem blockLines_spec (fold : Bool) (indent : Nat) (before : List Char) (fuel : Nat) :
    ⦃⌜True⌝⦄ blockLines fold indent before fuel ⦃spoiling⦄ := by
  induction fuel generalizing before with
  | zero => mvcgen [blockLines]
  | succ fuel ih => mvcgen [blockLines, ih]

@[spec]
theorem blockScalar_spec (fold : Bool) (outer : Int) : ⦃⌜True⌝⦄ blockScalar fold outer ⦃spoiling⦄ := by
  mvcgen [blockScalar]

@[spec]
theorem plainBreaks_spec (fuel : Nat) : ⦃⌜True⌝⦄ plainBreaks fuel ⦃spoiling⦄ := by
  induction fuel with
  | zero => mvcgen [plainBreaks]
  | succ fuel ih => mvcgen [plainBreaks, ih]

@[spec]
theorem plainGap_spec : ⦃⌜True⌝⦄ plainGap ⦃spoiling⦄ := by mvcgen [plainGap]

@[spec]
theorem plainRest_spec (inFlow : Bool) (indent : Int) (gap : List Char) (broke : Bool) (fuel : Nat) :
    ⦃⌜True⌝⦄ plainRest inFlow indent gap broke fuel ⦃spoiling⦄ := by
  induction fuel generalizing gap broke with
  | zero => mvcgen [plainRest]
  | succ fuel ih => mvcgen [plainRest, ih]

@[spec]
theorem plainScalar_spec (inFlow : Bool) (outer : Int) : ⦃⌜True⌝⦄ plainScalar inFlow outer ⦃spoiling⦄ := by
  mvcgen [plainScalar]

/-! ## Simple keys, directives and tags -/

namespace Lex

@[spec]
theorem fail_spec {α : Type} : ⦃⌜True⌝⦄ (fail : Lex α) ⦃spoiling⦄ := throw_spec .malformed

/-- A reading at the place of the lexer fails as it does anywhere. -/
@[spec]
theorem scan_spec {α : Type} {reading : Scan α} (h : ⦃⌜True⌝⦄ reading ⦃spoiling⦄) :
    ⦃⌜True⌝⦄ scan reading ⦃spoiling⦄ := by
  rw [raising_iff] at h ⊢
  intro l e he
  cases hr : reading.run l.cursor with
  | ok result => simp [scan, hr] at he
  | error e' =>
      obtain rfl : e' = e := by simpa [scan, hr] using he
      exact h l.cursor e' hr

@[spec]
theorem push_spec (t : Token) : ⦃⌜True⌝⦄ push t ⦃spoiling⦄ := by mvcgen [push]

@[spec]
theorem insert_spec (number : Nat) (t : Token) : ⦃⌜True⌝⦄ insert number t ⦃spoiling⦄ := by mvcgen [insert]

@[spec]
theorem allowKey_spec (allowed : Bool) : ⦃⌜True⌝⦄ allowKey allowed ⦃spoiling⦄ := by mvcgen [allowKey]

@[spec]
theorem dropStaleKeys_spec : ⦃⌜True⌝⦄ dropStaleKeys ⦃spoiling⦄ := by mvcgen [dropStaleKeys]

@[spec]
theorem dropKey_spec : ⦃⌜True⌝⦄ dropKey ⦃spoiling⦄ := by mvcgen [dropKey]

@[spec]
theorem saveKey_spec : ⦃⌜True⌝⦄ saveKey ⦃spoiling⦄ := by mvcgen [saveKey]

@[spec]
theorem unwindTo_spec (column : Int) (indents : List Int) :
    ⦃⌜True⌝⦄ unwindTo column indents ⦃spoiling⦄ := by
  induction indents with
  | nil => mvcgen [unwindTo]
  | cons outer rest ih => mvcgen [unwindTo, ih]

@[spec]
theorem unwind_spec (column : Int) : ⦃⌜True⌝⦄ unwind column ⦃spoiling⦄ := by mvcgen [unwind]

@[spec]
theorem openBlock_spec (column : Nat) : ⦃⌜True⌝⦄ openBlock column ⦃spoiling⦄ := by mvcgen [openBlock]

@[spec]
theorem leaveBlocks_spec : ⦃⌜True⌝⦄ leaveBlocks ⦃spoiling⦄ := by mvcgen [leaveBlocks]

@[spec]
theorem name_spec : ⦃⌜True⌝⦄ name ⦃spoiling⦄ := by mvcgen [name]

@[spec]
theorem versionNumber_spec : ⦃⌜True⌝⦄ versionNumber ⦃spoiling⦄ := by
  mvcgen [versionNumber, -Spec.throw_MonadExcept]
  all_goals exact .versionTooLong _ ‹_›

@[spec]
theorem version_spec : ⦃⌜True⌝⦄ version ⦃spoiling⦄ := by mvcgen [version]

@[spec]
theorem tagHandle_spec : ⦃⌜True⌝⦄ tagHandle ⦃spoiling⦄ := by mvcgen [tagHandle]

@[spec]
theorem escapedBytes_spec (fuel : Nat) : ⦃⌜True⌝⦄ escapedBytes fuel ⦃spoiling⦄ := by
  induction fuel with
  | zero => mvcgen [escapedBytes]
  | succ fuel ih => mvcgen [escapedBytes, ih]

@[spec]
theorem tagChars_spec (fuel : Nat) : ⦃⌜True⌝⦄ tagChars fuel ⦃spoiling⦄ := by
  induction fuel with
  | zero => mvcgen [tagChars]
  | succ fuel ih => mvcgen [tagChars, ih]

@[spec]
theorem tagText_spec : ⦃⌜True⌝⦄ tagText ⦃spoiling⦄ := by mvcgen [tagText]

@[spec]
theorem tagDeclaration_spec : ⦃⌜True⌝⦄ tagDeclaration ⦃spoiling⦄ := by mvcgen [tagDeclaration]

@[spec]
theorem directive_spec : ⦃⌜True⌝⦄ directive ⦃spoiling⦄ := by mvcgen [directive]

@[spec]
theorem anchorName_spec : ⦃⌜True⌝⦄ anchorName ⦃spoiling⦄ := by mvcgen [anchorName]

@[spec]
theorem tagName_spec : ⦃⌜True⌝⦄ tagName ⦃spoiling⦄ := by mvcgen [tagName]

/-! ## Tokens -/

@[spec]
theorem skipToToken_spec (fuel : Nat) : ⦃⌜True⌝⦄ skipToToken fuel ⦃spoiling⦄ := by
  induction fuel with
  | zero => mvcgen [skipToToken]
  | succ fuel ih => mvcgen [skipToToken, ih]

@[spec]
theorem fetchFlowStart_spec (t : Token) : ⦃⌜True⌝⦄ fetchFlowStart t ⦃spoiling⦄ := by mvcgen [fetchFlowStart]

@[spec]
theorem fetchFlowEnd_spec (t : Token) : ⦃⌜True⌝⦄ fetchFlowEnd t ⦃spoiling⦄ := by mvcgen [fetchFlowEnd]

@[spec]
theorem fetchFlowEntry_spec : ⦃⌜True⌝⦄ fetchFlowEntry ⦃spoiling⦄ := by mvcgen [fetchFlowEntry]

@[spec]
theorem openBlockHere_spec (start : Token) : ⦃⌜True⌝⦄ openBlockHere start ⦃spoiling⦄ := by
  mvcgen [openBlockHere]

@[spec]
theorem fetchBlockEntry_spec : ⦃⌜True⌝⦄ fetchBlockEntry ⦃spoiling⦄ := by mvcgen [fetchBlockEntry]

@[spec]
theorem fetchKey_spec : ⦃⌜True⌝⦄ fetchKey ⦃spoiling⦄ := by mvcgen [fetchKey]

@[spec]
theorem fetchValue_spec : ⦃⌜True⌝⦄ fetchValue ⦃spoiling⦄ := by mvcgen [fetchValue]

@[spec]
theorem fetchKeyable_spec {reading : Scan Token} (h : ⦃⌜True⌝⦄ reading ⦃spoiling⦄) :
    ⦃⌜True⌝⦄ fetchKeyable reading ⦃spoiling⦄ := by
  mvcgen [fetchKeyable, h]

@[spec]
theorem fetchBlockScalar_spec (fold : Bool) : ⦃⌜True⌝⦄ fetchBlockScalar fold ⦃spoiling⦄ := by
  mvcgen [fetchBlockScalar]

@[spec]
theorem fetchPlain_spec : ⦃⌜True⌝⦄ fetchPlain ⦃spoiling⦄ := by mvcgen [fetchPlain]

@[spec]
theorem fetchEnd_spec : ⦃⌜True⌝⦄ fetchEnd ⦃spoiling⦄ := by mvcgen [fetchEnd]

@[spec]
theorem fetchMarker_spec (t : Token) : ⦃⌜True⌝⦄ fetchMarker t ⦃spoiling⦄ := by mvcgen [fetchMarker]

@[spec]
theorem fetch_spec : ⦃⌜True⌝⦄ fetch ⦃spoiling⦄ := by mvcgen [fetch]

@[spec]
theorem needsMore_spec : ⦃⌜True⌝⦄ needsMore ⦃spoiling⦄ := by mvcgen [needsMore]

@[spec]
theorem fill_spec (fuel : Nat) : ⦃⌜True⌝⦄ fill fuel ⦃spoiling⦄ := by
  induction fuel with
  | zero => mvcgen [fill]
  | succ fuel ih => mvcgen [fill, ih]

@[spec]
theorem peek_spec : ⦃⌜True⌝⦄ peek ⦃spoiling⦄ := by mvcgen [peek]

@[spec]
theorem take_spec : ⦃⌜True⌝⦄ take ⦃spoiling⦄ := by mvcgen [take]

end Lex

/-! ## Nodes and documents -/

namespace Read

@[spec]
theorem fail_spec {α : Type} : ⦃⌜True⌝⦄ (fail : Read α) ⦃spoiling⦄ := throw_spec .malformed

/-- A step of the lexer fails as it does outside the reader. -/
@[spec]
theorem lex_spec {α : Type} {step : Lex α} (h : ⦃⌜True⌝⦄ step ⦃spoiling⦄) :
    ⦃⌜True⌝⦄ lex step ⦃spoiling⦄ := by
  rw [raising_iff] at h ⊢
  intro r e he
  cases hr : step.run r.lexer with
  | ok result => simp [lex, hr] at he
  | error e' =>
      obtain rfl : e' = e := by simpa [lex, hr] using he
      exact h r.lexer e' hr

@[spec]
theorem peek_spec : ⦃⌜True⌝⦄ peek ⦃spoiling⦄ := by mvcgen [peek]

@[spec]
theorem take_spec : ⦃⌜True⌝⦄ take ⦃spoiling⦄ := by mvcgen [take]

@[spec]
theorem inside_spec {α : Type} {read : Read α} (h : ⦃⌜True⌝⦄ read ⦃spoiling⦄) :
    ⦃⌜True⌝⦄ inside read ⦃spoiling⦄ := by
  mvcgen [inside, h, -Spec.throw_MonadExcept]
  exact .tooDeep

@[spec]
theorem addNode_spec (tag : Tag) (content : Content) : ⦃⌜True⌝⦄ addNode tag content ⦃spoiling⦄ := by
  mvcgen [addNode]

@[spec]
theorem fillNode_spec (id : Nat) (content : Content) : ⦃⌜True⌝⦄ fillNode id content ⦃spoiling⦄ := by
  mvcgen [fillNode]

@[spec]
theorem addEmpty_spec : ⦃⌜True⌝⦄ addEmpty ⦃spoiling⦄ := by mvcgen [addEmpty]

@[spec]
theorem directives_spec (versioned : Bool) (declared : List (String × String)) (fuel : Nat) :
    ⦃⌜True⌝⦄ directives versioned declared fuel ⦃spoiling⦄ := by
  induction fuel generalizing versioned declared with
  | zero => mvcgen [directives]
  | succ fuel ih => mvcgen [directives, ih]

@[spec]
theorem tagName_spec (t : TagName) : ⦃⌜True⌝⦄ tagName t ⦃spoiling⦄ := by mvcgen [tagName]

@[spec]
theorem properties_spec : ⦃⌜True⌝⦄ properties ⦃spoiling⦄ := by mvcgen [properties]

@[spec]
theorem checkAnchor_spec (p : Properties) : ⦃⌜True⌝⦄ checkAnchor p ⦃spoiling⦄ := by mvcgen [checkAnchor]

@[spec]
theorem addAnchored_spec (p : Properties) (tag : Tag) (content : Content) :
    ⦃⌜True⌝⦄ addAnchored p tag content ⦃spoiling⦄ := by mvcgen [addAnchored]

@[spec]
theorem emptyNode_spec (p : Properties) : ⦃⌜True⌝⦄ emptyNode p ⦃spoiling⦄ := by mvcgen [emptyNode]

/-- What the steps that read a node, or a part of one, fail with when they may take so many steps. -/
structure NodesSpoil (fuel : Nat) : Prop where
  node : ∀ position, ⦃⌜True⌝⦄ Read.node position fuel ⦃spoiling⦄
  blockItems : ⦃⌜True⌝⦄ Read.blockItems fuel ⦃spoiling⦄
  looseItems : ⦃⌜True⌝⦄ Read.looseItems fuel ⦃spoiling⦄
  blockEntries : ⦃⌜True⌝⦄ Read.blockEntries fuel ⦃spoiling⦄
  blockValue : ⦃⌜True⌝⦄ Read.blockValue fuel ⦃spoiling⦄
  flowItems : ∀ first, ⦃⌜True⌝⦄ Read.flowItems first fuel ⦃spoiling⦄
  flowPairValue : ⦃⌜True⌝⦄ Read.flowPairValue fuel ⦃spoiling⦄
  flowEntries : ∀ first, ⦃⌜True⌝⦄ Read.flowEntries first fuel ⦃spoiling⦄
  flowEntryValue : ⦃⌜True⌝⦄ Read.flowEntryValue fuel ⦃spoiling⦄

theorem nodesSpoil (fuel : Nat) : NodesSpoil fuel := by
  -- the nine call each other, each time with a step less, so all of them go into one induction
  induction fuel with
  | zero =>
      constructor
      · intro position; mvcgen [Read.node]
      · mvcgen [Read.blockItems]
      · mvcgen [Read.looseItems]
      · mvcgen [Read.blockEntries]
      · mvcgen [Read.blockValue]
      · intro first; mvcgen [Read.flowItems]
      · mvcgen [Read.flowPairValue]
      · intro first; mvcgen [Read.flowEntries]
      · mvcgen [Read.flowEntryValue]
  | succ fuel ih =>
      obtain ⟨hnode, hblockItems, hlooseItems, hblockEntries, hblockValue, hflowItems, hflowPairValue,
        hflowEntries, hflowEntryValue⟩ := ih
      constructor
      · intro position
        mvcgen [Read.node, hblockItems, hlooseItems, hblockEntries, hflowItems, hflowEntries]
      · mvcgen [Read.blockItems, hnode, hblockItems]
      · mvcgen [Read.looseItems, hnode, hlooseItems]
      · mvcgen [Read.blockEntries, hnode, hblockValue, hblockEntries]
      · mvcgen [Read.blockValue, hnode]
      · intro first
        mvcgen [Read.flowItems, hnode, hflowPairValue, hflowItems]
      · mvcgen [Read.flowPairValue, hnode]
      · intro first
        mvcgen [Read.flowEntries, hnode, hflowEntryValue, hflowEntries]
      · mvcgen [Read.flowEntryValue, hnode]

@[spec]
theorem node_spec (position : Position) (fuel : Nat) : ⦃⌜True⌝⦄ node position fuel ⦃spoiling⦄ :=
  (nodesSpoil fuel).node position

@[spec]
theorem skipEnds_spec (fuel : Nat) : ⦃⌜True⌝⦄ skipEnds fuel ⦃spoiling⦄ := by
  induction fuel with
  | zero => mvcgen [skipEnds]
  | succ fuel ih => mvcgen [skipEnds, ih]

@[spec]
theorem atEnd_spec (fuel : Nat) : ⦃⌜True⌝⦄ atEnd fuel ⦃spoiling⦄ := by mvcgen [atEnd]

@[spec]
theorem markedRoot_spec (fuel : Nat) : ⦃⌜True⌝⦄ markedRoot fuel ⦃spoiling⦄ := by mvcgen [markedRoot]

@[spec]
theorem document_spec (fuel : Nat) : ⦃⌜True⌝⦄ document fuel ⦃spoiling⦄ := by mvcgen [document]

end Read

/-- **What the reading of a text fails with.** -/
theorem spoils_of_ofText {text : String} {e : Error} (h : Graph.ofText text = .error e) : Spoils e := by
  unfold Graph.ofText at h
  dsimp only at h
  split_ifs at h with hallowed
  · obtain rfl := Except.error.inj h
    exact .malformed
  · cases hr : (Read.document (8 * text.toList.length + 16)).run
        { lexer := { cursor := { rest := text.toList } } } with
    | ok result => simp [hr] at h
    | error e' =>
        obtain rfl : e' = e := by simpa [hr] using h
        exact raising_iff.mp (Read.document_spec _) _ _ hr

end Yaml

end FeatureFlags
