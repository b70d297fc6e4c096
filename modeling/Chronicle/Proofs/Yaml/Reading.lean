import Chronicle.Proofs.Upholds
import Chronicle.Yaml.Reader

/-!
# What reading a YAML text finds wrong

Reading a text into a node fails with a fault of the text itself, except for two things that are
told in words of their own: the code of a character beyond the last one, and the number of a version
with too many digits. `Yaml.Node.lexical_of_ofText?` says that there are no others. The values of
scalars come later.
-/
namespace Chronicle.Yaml

/-- What reading a text can find wrong. -/
inductive Lexical : YamlFault → Prop
  | malformed : Lexical .malformed
  /-- No character has this code. -/
  | noSuchCode {code : Nat} (h : 0x10FFFF < code) : Lexical (.noSuchCode code)
  /-- The number of a version has this many digits. -/
  | longNumber {digits : Nat} (h : Decimal.maxDigits < digits) : Lexical (.longNumber digits)

/-- A part of a text is read, or there is something wrong with the text. -/
abbrev Reads {α : Type} (x : Except YamlFault α) : Prop :=
  OnlyFails Lexical x

/-- A text that is told to break the rules is told so as a fault of the text. -/
private theorem reads_malformed {α : Type} : Reads (.error .malformed : Except YamlFault α) :=
  .error .malformed

/-! ### Quoted scalars -/

/-- The line ends within quotes can only run into the end of the document. -/
private theorem reads_quotedLineEnds (c : Cursor) (bound : Nat) :
    Reads (quotedLineEnds c bound) := by
  induction bound generalizing c with
  | zero => exact reads_malformed
  | succ bound ih =>
    rw [quotedLineEnds]
    refine .ite reads_malformed (.ite ?_ (.ok _))
    exact .bind (ih _) fun _ => .ok _

/-- A code beyond the last character is the one fault of an escape with words of its own. -/
private theorem reads_charOfCode (code : Nat) : Reads (charOfCode code) := by
  rw [charOfCode]
  split
  next h => exact .error (.noSuchCode h)
  next => exact .ite (.ok _) (.ok _)

/-- An escape within quotes stands for a character, or fails for want of one. -/
private theorem reads_quotedEscape (c : Cursor) : Reads (quotedEscape c) := by
  rw [quotedEscape]
  split
  -- an escape for one character
  next => exact .ok _
  next =>
    dsimp only
    split
    next =>
      -- a code point written out in digits
      exact .guarded .malformed (.bind (reads_charOfCode _) fun _ => .ok _)
    next => exact reads_malformed
  -- the end of a line, which is passed over
  next => exact .ite (reads_quotedLineEnds _ _) reads_malformed

/-- Blanks within quotes fail only through the line ends among them. -/
private theorem reads_quotedBlanks (c : Cursor) : Reads (quotedBlanks c) := by
  rw [quotedBlanks]
  refine .ite reads_malformed (.ite ?_ (.ok _))
  exact .bind (reads_quotedLineEnds _ _) fun _ => .ok _

/-- The rest of a quoted scalar, by induction on the characters that may be left. -/
private theorem reads_quotedRest (mark : Char) (text : List Char) (c : Cursor) (bound : Nat) :
    Reads (quotedRest mark text c bound) := by
  induction bound generalizing text c with
  | zero => exact reads_malformed
  | succ bound ih =>
    rw [quotedRest]
    refine .ite reads_malformed (.ite ?_ (.ite ?_ (.ite ?_ (ih _ _))))
    · exact .ite (ih _ _) (.ok _)
    · exact .bind (reads_quotedBlanks c) fun _ => ih _ _
    · exact .bind (reads_quotedEscape c.next) fun _ => ih _ _

private theorem reads_quotedScalar (c : Cursor) : Reads (quotedScalar c) :=
  reads_quotedRest _ _ _ _

/-! ### Block scalars -/

/-- What stands after the bar of a block may be a number and a sign, and nothing else. -/
private theorem reads_blockIndicators (c : Cursor) : Reads (blockIndicators c) := by
  rw [blockIndicators]
  exact .guarded .malformed (.ok _)

private theorem reads_ignoredLine (c : Cursor) : Reads (ignoredLine c) :=
  .ite (.ok _) reads_malformed

/-- A block can only fail in its first line: what is indented belongs to it as it stands. -/
private theorem reads_blockScalar (outer : Int) (c : Cursor) : Reads (blockScalar outer c) := by
  rw [blockScalar]
  refine .bind (reads_blockIndicators _) fun _ => .bind (reads_ignoredLine _) fun _ => ?_
  exact .ok _

/-! ### Names, tags and directives -/

private theorem reads_anchorName (c : Cursor) : Reads (anchorName c) :=
  .ite reads_malformed (.ok _)

/-- The escaped octets of a tag have to be UTF-8. -/
private theorem reads_tagOctets (c : Cursor) (bound : Nat) : Reads (tagOctets c bound) := by
  induction bound generalizing c with
  | zero => exact reads_malformed
  | succ bound ih =>
    rw [tagOctets]
    refine .ite ?_ (.ok _)
    dsimp only
    split
    next => exact .guarded .malformed (.bind (ih _) fun _ => .ok _)
    next => exact reads_malformed

/-- The text of a tag, by induction on the characters that may be left. -/
private theorem reads_tagText (c : Cursor) (bound : Nat) : Reads (tagText c bound) := by
  induction bound generalizing c with
  | zero => exact reads_malformed
  | succ bound ih =>
    rw [tagText]
    refine .ite (.bind (reads_tagOctets _ _) fun (octets, c) => ?_) (.ite ?_ (.ok _))
    -- octets in hexadecimal digits have to be a text
    · dsimp only
      split
      next => exact reads_malformed
      next => exact .bind (ih _) fun _ => .ok _
    · exact .bind (ih _) fun _ => .ok _

private theorem reads_someTagText (c : Cursor) : Reads (someTagText c) :=
  .bind (reads_tagText _ _) fun _ => .guarded .malformed (.ok _)

/-- The handle of a tag ends with an exclamation mark. -/
private theorem reads_tagHandle (c : Cursor) : Reads (tagHandle c) := by
  rw [tagHandle]
  refine .guarded .malformed (.ite (.ok _) ?_)
  exact .guarded .malformed (.ok _)

/-- A tag in angle brackets is closed by one; any other has a handle and a text. -/
private theorem reads_tag (c : Cursor) : Reads (tag c) := by
  rw [tag]
  refine .ite ?_ (.ite (.bind (.ok _) fun _ => .guarded .malformed (.ok _)) ?_)
  · refine .bind (reads_someTagText _) fun _ => .guarded .malformed ?_
    exact .bind (.ok _) fun _ => .guarded .malformed (.ok _)
  · refine .ite (.bind (reads_tagHandle _) fun _ => ?_) (.bind (.ok _) fun _ => ?_)
    all_goals
      refine .bind (reads_someTagText _) fun _ => ?_
      exact .bind (.ok _) fun _ => .guarded .malformed (.ok _)

/-- The number of a version is the one thing with too many digits that is told as such. -/
private theorem reads_versionNumber (c : Cursor) : Reads (versionNumber c) := by
  rw [versionNumber]
  refine .guarded .malformed ?_
  dsimp only
  split
  next hlong => exact .bind (.error (.longNumber hlong)) fun _ => .ok _
  next => exact .ok _

/-- A directive gives a version or a handle; any other kind is passed over. -/
private theorem reads_directive (c : Cursor) : Reads (directive c) := by
  rw [directive]
  refine .guarded .malformed (.ite ?_ (.ite ?_ ?_))
  · refine .bind (reads_versionNumber _) fun _ => .guarded .malformed ?_
    refine .bind (reads_versionNumber _) fun _ => .guarded .malformed ?_
    exact .bind (.ok _) fun _ => .bind (reads_ignoredLine _) fun _ => .ok _
  · refine .bind (reads_tagHandle _) fun _ => .guarded .malformed ?_
    refine .bind (reads_someTagText _) fun _ => .guarded .malformed ?_
    exact .bind (.ok _) fun _ => .bind (reads_ignoredLine _) fun _ => .ok _
  · exact .bind (.ok _) fun _ => .bind (reads_ignoredLine _) fun _ => .ok _

/-! ### Tokens -/

namespace Lexer

variable (l : Lexer)

/-- A candidate for a key is stale when the line of its colon is over. -/
private theorem reads_dropStale : Reads l.dropStale :=
  .ite reads_malformed (.ok _)

/-- A key that is required has to come before its candidate is given up. -/
private theorem reads_dropCandidate : Reads l.dropCandidate := by
  rw [dropCandidate]
  split
  next => exact .ok _
  next => exact .ite reads_malformed (.ok _)

/-- A new candidate takes the place of an older one, which must not have been required. -/
private theorem reads_saveCandidate : Reads l.saveCandidate := by
  rw [saveCandidate]
  exact .ite (.ok _) (.bind (reads_dropCandidate l) fun _ => .ok _)

private theorem reads_boundary : Reads l.boundary :=
  .bind (reads_dropCandidate _) fun _ => .ok _

private theorem reads_startFlow (t : Token) : Reads (l.startFlow t) :=
  .bind (reads_saveCandidate l) fun _ => .ok _

/-- The end of a flow collection ends the candidate of its level. -/
private theorem reads_endFlow (t : Token) : Reads (l.endFlow t) := by
  rw [endFlow]
  exact .guarded .malformed (.bind (reads_dropCandidate l) fun _ => .ok _)

private theorem reads_comma : Reads l.comma :=
  .bind (reads_dropCandidate _) fun _ => .ok _

/-- A block collection can only be opened where a key may stand. -/
private theorem reads_openAt (start : Token) : Reads (l.openAt start) := by
  rw [openAt]
  exact .guarded .malformed (.ok _)

private theorem reads_dash : Reads l.dash :=
  .bind (reads_openAt l _) fun _ => .bind (reads_dropCandidate _) fun _ => .ok _

private theorem reads_key : Reads l.key :=
  .bind (reads_openAt l _) fun _ => .bind (reads_dropCandidate _) fun _ => .ok _

/-- A colon makes a key of the candidate before it; without one it needs a place for a key. -/
private theorem reads_value : Reads l.value := by
  rw [value]
  split
  next => exact .ok _
  next => exact .bind (reads_openAt l _) fun _ => .ok _

/-- A word of the text fails as the reader of that word does, or as keeping its candidate does. -/
private theorem reads_word {read : Lexer → Except YamlFault (Token × Cursor)}
    (hread : ∀ l, Reads (read l)) : Reads (l.word read) :=
  .bind (reads_saveCandidate l) fun l => .bind (hread l) fun _ => .ok _

private theorem reads_plain : Reads l.plain :=
  .bind (reads_saveCandidate l) fun _ => .ok _

private theorem reads_block : Reads l.block :=
  .bind (reads_dropCandidate _) fun _ => .bind (reads_blockScalar _ _) fun _ => .ok _

private theorem reads_some {x : Except YamlFault Lexer} (hx : Reads x) :
    Reads (do return some (← x)) :=
  .bind hx fun _ => .ok _

/-- One step of the lexer, by the character that it meets. Each token has its own lemma above. -/
private theorem reads_step : Reads l.step := by
  rw [step]
  -- stale candidates go first, and only then does the next character count
  refine .bind (reads_dropStale _) fun l => ?_
  dsimp only
  split
  next => exact .ok _
  next => exact reads_some (reads_startFlow _ _)
  next => exact reads_some (reads_endFlow _ _)
  next => exact reads_some (reads_startFlow _ _)
  next => exact reads_some (reads_endFlow _ _)
  next => exact reads_some (reads_comma _)
  next => exact reads_some (reads_word _ fun l => .map (reads_anchorName l.cursor) _)
  next => exact reads_some (reads_word _ fun l => .map (reads_anchorName l.cursor) _)
  next => exact reads_some (reads_word _ fun l => reads_tag l.cursor)
  next => exact reads_some (reads_word _ fun l => .map (reads_quotedScalar l.cursor) _)
  next => exact reads_some (reads_word _ fun l => .map (reads_quotedScalar l.cursor) _)
  next =>
    split
    -- no mark of its own: a directive, the bounds of a document, a block entry, or plain text
    · exact .bind (reads_boundary _) fun _ => .bind (reads_directive _) fun _ => .ok _
    split
    · exact .bind (reads_boundary _) fun _ => .ok _
    split
    · exact .bind (reads_boundary _) fun _ => .ok _
    split
    · exact reads_some (reads_dash _)
    split
    · exact reads_some (reads_key _)
    split
    · exact reads_some (reads_value _)
    split
    · exact reads_some (reads_block _)
    split
    · exact reads_some (reads_plain _)
    · exact reads_malformed

/-- The lexer makes a step, and goes on as long as there are tokens to come. -/
private theorem run_succ (bound : Nat) : l.run (bound + 1) = match l.step with
    | .error f => (l.tokens.toList, some f)
    | .ok (some l) => run l bound
    | .ok none =>
      match (l.closeTo (-1)).dropCandidate with
      | .ok l => (l.tokens.toList, none)
      | .error f => (l.tokens.toList, some f) := (rfl)

/-- What is wrong with the text after the tokens. -/
private theorem lexical_of_run {f : YamlFault} {bound : Nat} (h : (l.run bound).2 = some f) :
    Lexical f := by
  induction bound generalizing l with
  | zero => cases h
  | succ bound ih =>
    rw [run_succ] at h
    split at h
    next hstep =>
      cases h
      -- the step has failed
      exact reads_step l _ hstep
    next => exact ih _ h
    next =>
      split at h
      next => cases h
      -- the text is over, but a key is still required
      next hlast =>
        cases h
        exact reads_dropCandidate _ _ hlast

end Lexer

/-! ### Nodes -/

namespace NodeReading

/-- What is wrong with the text after the tokens is kept in mind until it counts. -/
abbrev Minds {α : Type} (act : NodeReading α) : Prop :=
  Upholds (fun r : NodeReader => ∀ f, r.fault = some f → Lexical f) Lexical act

/-- A reader of nodes that fails says that the text is malformed. -/
private theorem minds_fail {α : Type} : Minds (fail : NodeReading α) :=
  .throw .malformed

/-- Looking at the next token tells what the lexer has found wrong instead of a token. -/
private theorem minds_peek : Minds peek := by
  refine .get fun r hr => ?_
  split
  next => exact .pure _
  next f _ hfault => exact .throw (hr f hfault)
  next => exact .pure _

private theorem minds_drop : Minds drop :=
  .change fun _ h => h

private theorem minds_accept (t : Token) : Minds (accept t) :=
  .bind minds_peek fun _ => .ite (.bind minds_drop fun _ => .pure _) (.pure _)

private theorem minds_isAt (ts : List Token) : Minds (isAt ts) :=
  .bind minds_peek fun _ => .pure _

/-- A tag whose handle nothing defines makes the text malformed. -/
private theorem minds_tagName (t : TagText) : Minds (tagName t) := by
  rw [tagName]
  split
  next => exact .pure _
  next =>
    refine .get fun _ _ => ?_
    split
    next => exact .pure _
    next => exact minds_fail

/-- A node may have an anchor or none. -/
private theorem minds_anchor? : Minds anchor? := by
  refine .bind minds_peek fun _ => ?_
  split
  next => exact .bind minds_drop fun _ => .pure _
  next => exact .pure _

/-- A node may have a tag or none. -/
private theorem minds_tag? : Minds tag? := by
  refine .bind minds_peek fun _ => ?_
  split
  next => exact .bind minds_drop fun _ => .bind (minds_tagName _) fun _ => .pure _
  next => exact .pure _

/-- An anchor and a tag may come in either order. -/
private theorem minds_properties : Minds properties := by
  refine .bind minds_anchor? fun _ => ?_
  split
  next => exact .bind minds_tag? fun _ => .pure _
  next =>
    refine .bind minds_tag? fun _ => ?_
    split
    next => exact .pure _
    next => exact .bind minds_anchor? fun _ => .pure _

/-- An anchor that is in use already must not be given again. -/
private theorem minds_checkFree (anchor : Option String) : Minds (checkFree anchor) := by
  cases anchor with
  | none => exact .pure _
  | some name => exact .get fun _ _ => .ite minds_fail (.pure _)

private theorem minds_register (anchor : Option String) (n : Node) : Minds (register anchor n) := by
  refine .bind (minds_checkFree anchor) fun _ => ?_
  split
  next => exact .pure _
  next => exact .change fun _ h => h

/-- A token that must follow unless it may be left out. -/
private theorem minds_expect {α : Type} (isOptional : Bool) (t : Token)
    {next : PUnit → NodeReading α} (hnext : Minds (next ⟨⟩)) :
    Minds (if (!isOptional) = true then do
        if (!(← accept t)) = true then fail >>= next else next ⟨⟩
      else next ⟨⟩) :=
  .ite (.bind (minds_accept _) fun _ => .ite (.bind minds_fail fun _ => hnext) hnext) hnext

/-- All readers with a bound. -/
structure MindsAll (bound : Nat) : Prop where
  node : ∀ site, Minds (node bound site)
  nodeUnless : ∀ stops site, Minds (nodeUnless bound stops site)
  content : ∀ site p, Minds (content bound site p)
  blockItems : Minds (blockItems bound)
  flatItems : Minds (flatItems bound)
  blockEntries : Minds (blockEntries bound)
  flowItems : ∀ isFirst, Minds (flowItems bound isFirst)
  flowEntries : ∀ isFirst, Minds (flowEntries bound isFirst)

variable {bound : Nat}

/-- A node is an alias, or properties with content. Aliases stand for what has been registered. -/
private theorem minds_node (h : MindsAll bound) (site : Site) : Minds (node (bound + 1) site) := by
  rw [node]
  refine .bind minds_peek fun _ => ?_
  split
  next =>
    -- an alias stands for a node that was read before
    refine .bind minds_drop fun _ => .get fun _ _ => ?_
    split
    next => exact .pure _
    next => exact minds_fail
  next =>
    -- any other node may have an anchor and a tag
    refine .bind minds_properties fun p => .bind (minds_checkFree _) fun _ => ?_
    exact .bind (h.content site p) fun n => .bind (minds_register _ n) fun _ => .pure _

/-- Where a token says that there is nothing, an empty scalar stands for it. -/
private theorem minds_nodeUnless (h : MindsAll bound) (stops : List Token) (site : Site) :
    Minds (nodeUnless (bound + 1) stops site) := by
  rw [nodeUnless]
  exact .bind (minds_isAt stops) fun _ => .ite (.pure _) (h.node site)

/-- The content of a node is told by its first token. -/
private theorem minds_content (h : MindsAll bound) (site : Site) (p : Properties) :
    Minds (content (bound + 1) site p) := by
  rw [content]
  refine .bind minds_peek fun token => ?_
  split
  -- a scalar is its token
  next => exact .bind minds_drop fun _ => .pure _
  next => exact .bind minds_drop fun _ => .bind (h.flowItems true) fun _ => .pure _
  next => exact .bind minds_drop fun _ => .bind (h.flowEntries true) fun _ => .pure _
  next =>
    -- in a block there may be items, entries, or nothing at all
    refine .ite (.bind h.flatItems fun _ => .pure _) (.ite ?_ (.ite ?_ ?_))
    · exact .bind minds_drop fun _ => .bind h.blockItems fun _ => .pure _
    · exact .bind minds_drop fun _ => .bind h.blockEntries fun _ => .pure _
    · exact .ite (.pure _) minds_fail

/-- The items of a block list, given that one level less of everything is minded. -/
private theorem minds_blockItems (h : MindsAll bound) : Minds (blockItems (bound + 1)) := by
  rw [blockItems]
  refine .bind (minds_accept _) fun _ => .ite ?_ ?_
  · exact .bind (h.nodeUnless _ _) fun _ => .bind h.blockItems fun _ => .pure _
  · exact .bind (minds_accept _) fun _ => .ite (.pure _) minds_fail

/-- The items of a list that is not indented, as it may stand in a map. -/
private theorem minds_flatItems (h : MindsAll bound) : Minds (flatItems (bound + 1)) := by
  rw [flatItems]
  refine .bind (minds_accept _) fun _ => .ite ?_ (.pure _)
  exact .bind (h.nodeUnless _ _) fun _ => .bind h.flatItems fun _ => .pure _

/-- The entries of a block map: a key, a value, and either may be missing. -/
private theorem minds_blockEntries (h : MindsAll bound) : Minds (blockEntries (bound + 1)) := by
  rw [blockEntries]
  refine .bind (minds_accept _) fun _ => .ite ?_ ?_
  · refine .bind (h.nodeUnless _ _) fun _ => .bind (minds_accept _) fun _ => .ite ?_ ?_
    · exact .bind (h.nodeUnless _ _) fun _ => .bind h.blockEntries fun _ => .pure _
    · exact .bind (.pure _) fun _ => .bind h.blockEntries fun _ => .pure _
  · exact .bind (minds_accept _) fun _ => .ite (.pure _) minds_fail

/-- The items between brackets, with a comma between each two. -/
private theorem minds_flowItems (h : MindsAll bound) (isFirst : Bool) :
    Minds (flowItems (bound + 1) isFirst) := by
  rw [flowItems]
  refine .bind (minds_accept _) fun _ => .ite (.pure _) ?_
  -- the items are separated, and may end in a comma
  refine minds_expect isFirst .comma (.bind (minds_accept _) fun _ => .ite (.pure _) ?_)
  refine .bind (minds_accept _) fun _ => .ite ?_ ?_
  -- an item with a key is a map of one entry
  · refine .bind (h.nodeUnless _ _) fun _ => .bind (minds_accept _) fun _ => .ite ?_ ?_
    · refine .bind (h.nodeUnless _ _) fun _ => .bind (.pure _) fun _ => ?_
      exact .bind (h.flowItems false) fun _ => .pure _
    · refine .bind (.pure _) fun _ => .bind (.pure _) fun _ => ?_
      exact .bind (h.flowItems false) fun _ => .pure _
  · exact .bind (h.node _) fun _ => .bind (h.flowItems false) fun _ => .pure _

/-- The entries between braces, with a comma between each two. -/
private theorem minds_flowEntries (h : MindsAll bound) (isFirst : Bool) :
    Minds (flowEntries (bound + 1) isFirst) := by
  rw [flowEntries]
  refine .bind (minds_accept _) fun _ => .ite (.pure _) ?_
  -- the entries are separated, and may end in a comma
  refine minds_expect isFirst .comma (.bind (minds_accept _) fun _ => .ite (.pure _) ?_)
  refine .bind (minds_accept _) fun _ => .ite ?_ ?_
  · refine .bind (h.nodeUnless _ _) fun _ => .bind (minds_accept _) fun _ => .ite ?_ ?_
    · refine .bind (h.nodeUnless _ _) fun _ => .bind (.pure _) fun _ => ?_
      exact .bind (h.flowEntries false) fun _ => .pure _
    · refine .bind (.pure _) fun _ => .bind (.pure _) fun _ => ?_
      exact .bind (h.flowEntries false) fun _ => .pure _
  -- a node that is no key is the key of nothing
  · refine .bind (h.node _) fun _ => .bind (.pure _) fun _ => ?_
    exact .bind (h.flowEntries false) fun _ => .pure _

/-- All readers of nodes at once, by induction on the bound that they share. -/
private theorem mindsAll (bound : Nat) : MindsAll bound := by
  induction bound with
  | zero =>
    exact ⟨fun _ => minds_fail, fun _ _ => minds_fail, fun _ _ => minds_fail, minds_fail,
      minds_fail, minds_fail, fun _ => minds_fail, fun _ => minds_fail⟩
  | succ bound ih =>
    exact ⟨minds_node ih, minds_nodeUnless ih, minds_content ih, minds_blockItems ih,
      minds_flatItems ih, minds_blockEntries ih, minds_flowItems ih, minds_flowEntries ih⟩

/-! ### Documents -/

/-- The directives before a document, by induction on how many there may be. -/
private theorem minds_directives (bound : Nat) (hasVersion : Bool)
    (handles : List (String × String)) :
    Minds (directives bound hasVersion handles) := by
  induction bound generalizing hasVersion handles with
  | zero => exact minds_fail
  | succ bound ih =>
    rw [directives]
    refine .bind minds_peek fun _ => ?_
    split
    next =>
      -- a second version is an error, the first one is taken note of
      have hrest : Minds (do drop; directives bound true handles) :=
        .bind minds_drop fun _ => ih _ _
      exact .ite (.bind minds_fail fun _ => hrest) hrest
    next handle start =>
      -- a handle is defined once
      have hrest : Minds (do drop; directives bound hasVersion ((handle, start) :: handles)) :=
        .bind minds_drop fun _ => ih _ _
      exact .ite (.bind minds_fail fun _ => hrest) hrest
    next => exact .bind minds_drop fun _ => ih _ _
    next => exact .pure _

/-- The ends of a document may be repeated. -/
private theorem minds_documentEnds (bound : Nat) : Minds (documentEnds bound) := by
  induction bound with
  | zero => exact minds_fail
  | succ bound ih =>
    rw [documentEnds]
    exact .bind (minds_accept _) fun _ => .ite ih (.pure _)

/-- One document makes a text; a second one would make it malformed. -/
private theorem minds_document : Minds document := by
  refine .get fun r _ => .bind minds_peek fun token => ?_
  split
  next => exact .pure _
  next token =>
    -- a document may begin by itself, or with directives and its start
    refine .ite (.bind (.pure _) fun _ => ?_) (.bind (minds_directives _ _ _) fun _ => ?_)
    all_goals
      refine .bind (.change fun _ h => h) fun _ => minds_expect _ .documentStart ?_
      refine .bind minds_peek fun _ => .ite (.bind (.pure _) fun _ => ?_)
        (.bind ((mindsAll _).node _) fun _ => ?_)
      all_goals
        refine .bind (minds_documentEnds _) fun _ => .bind minds_peek fun _ => ?_
        exact .ite (.bind minds_fail fun _ => .pure _) (.pure _)

end NodeReading

/-- A text that cannot be read breaks the rules, or has the code of a character that there is not,
or the number of a version with too many digits. -/
theorem Node.lexical_of_ofText? (text : List Char) : Reads (Node.ofText? text) := by
  rw [Node.ofText?]
  split
  next =>
    dsimp only
    generalize hrun : Lexer.run _ _ = found
    -- what the lexer has found is a fault of the text
    have hfault : ∀ f, found.2 = some f → Lexical f := by
      intro f hf
      rw [← hrun] at hf
      exact Lexer.lexical_of_run _ hf
    exact .map (NodeReading.minds_document.fails ⟨found.1, found.2, [], []⟩ hfault) _
  next => exact reads_malformed

end Chronicle.Yaml
