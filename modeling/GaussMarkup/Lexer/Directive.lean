import GaussMarkup.Lexer.Comment

/-!
# Directives

A directive is a `#` that only blanks and at most one comment precede in its line. What stands in
front of it, its lead, is lexed on its own. `#if 0` switches the following lines off; any other `#`
puts the lexer into directive mode, which ends with the first line feed that no backslash precedes
and no comment holds.

The comment of a lead ends within its line. Where the shortest such comment is not followed by the
directive, a longer one may be, up to a later end mark of the same line.
-/

namespace GaussMarkup

/-- What stands behind a comment at the start of `s`, for each of its possible ends within the line,
nearest first. -/
def restsBehindComment : List Char → List (List Char)
  | '/' :: '*' :: s => restsBehind ['*', '/'] s
  | '@' :: s => restsBehind ['@'] s
  | _ => []

/-- What may stand in front of a directive is blanks, perhaps with a comment and more blanks. These
are the texts behind such leads, in order of preference. -/
def restsBehindLead (s : List Char) : List (List Char) :=
  (restsBehindComment (s.dropWhile isBlank)).map (·.dropWhile isBlank) ++ [s.dropWhile isBlank]

/-- The start of a block that is switched off: `#if`, blanks and a zero. -/
def cutDisabledStart? (s : List Char) : Option Cut :=
  (cutWord? ['#', 'i', 'f'] s).bind fun x =>
    (cutRun? isBlank x.2).bind fun y =>
      (cutMark? ['0'] y.2).map fun z => (x.1 ++ y.1 ++ z.1, z.2)

/-- A directive behind a lead, found by what `start` takes. -/
def findDirective? (start : List Char → Option Cut) (mode : Mode) (s : List Char) : Option Match :=
  (restsBehindLead s).findSome? fun rest =>
    (start rest).bind fun x =>
      if x.1 = [] then none
      else some ⟨[], (cutBefore rest s).1, [⟨.directive, x.1⟩], x.2, .push mode⟩

/-- A lead with something left behind it. Where a lead takes all of the text, the last of its blanks
that is no line feed is given back. -/
def giveBack? (lead : Cut) : Option Cut :=
  if lead.2 = [] then
    match lead.1.reverse.dropWhile (· == '\n') with
    | [] => none
    | c :: front =>
      if isBlank c then some (front.reverse, c :: (lead.1.reverse.takeWhile (· == '\n')).reverse)
      else none
  else some lead

/-- An include directive behind its `#`: the word, what stands behind it, and the rest of the line,
which is the name of a file. -/
def findInclude? (s : List Char) : Option Match :=
  (cutWord? "include".toList s).bind fun word =>
    let lead? := (restsBehindLead word.2).findSome? fun rest => giveBack? (cutBefore rest word.2)
    lead?.map fun lead =>
      .plain
        (lexemeOf .directive word.1 ++ lexemeOf .text lead.1 ++
          lexemeOf .directiveFile (lead.2.takeWhile (· != '\n')))
        (lead.2.dropWhile (· != '\n')) .stay

def cutInlineComment? : List Char → Option Cut
  | '/' :: '*' :: s => (cutThrough? (cutMark? ['*', '/']) s).map fun x => ('/' :: '*' :: x.1, x.2)
  | _ => none

/-- A comment that ends a directive, up to the end of the line. -/
def cutClosingComment? : List Char → Option Cut
  | '/' :: '/' :: s => some ('/' :: '/' :: (cutLine s).1, (cutLine s).2)
  | _ => none

theorem suffix_of_mem_restsBehindComment {s rest : List Char} (h : rest ∈ restsBehindComment s) :
    rest <:+ s := by
  unfold restsBehindComment at h
  split at h
  · exact (suffix_of_mem_restsBehind h).trans ⟨['/', '*'], rfl⟩
  · exact (suffix_of_mem_restsBehind h).trans ⟨['@'], rfl⟩
  · simp at h

theorem suffix_of_mem_restsBehindLead {s rest : List Char} (h : rest ∈ restsBehindLead s) :
    rest <:+ s := by
  have hs : s.dropWhile isBlank <:+ s := List.dropWhile_suffix ..
  rcases List.mem_append.1 h with h | h
  · obtain ⟨x, hx, rfl⟩ := List.mem_map.1 h
    exact (List.dropWhile_suffix ..).trans ((suffix_of_mem_restsBehindComment hx).trans hs)
  · obtain rfl := List.mem_singleton.1 h
    exact hs

theorem joins_cutDisabledStart? : Joins cutDisabledStart? := by
  intro s c h
  obtain ⟨x, hx, h⟩ := Option.bind_eq_some_iff.1 h
  obtain ⟨y, hy, h⟩ := Option.bind_eq_some_iff.1 h
  obtain ⟨z, hz, rfl⟩ := Option.map_eq_some_iff.1 h
  rw [← joins_cutWord? _ hx, ← joins_cutRun? _ hy, ← joins_cutMark? _ hz]
  simp

theorem covers_findDirective? {start : List Char → Option Cut} {mode : Mode} {s : List Char}
    {m : Match} (hstart : Joins start) (h : findDirective? start mode s = some m) :
    m.Covers s := by
  obtain ⟨rest, hr, h⟩ := List.exists_of_findSome?_eq_some h
  obtain ⟨x, hx, h⟩ := Option.bind_eq_some_iff.1 h
  split at h
  · simp at h
  · next hne =>
    obtain rfl := Option.some.inj h
    have hrest := hstart hx
    have hs : (cutBefore rest s).1 ++ (x.1 ++ x.2) = s := by
      rw [hrest]
      exact cutBefore_join (suffix_of_mem_restsBehindLead hr)
    refine ⟨by simpa [Match.text] using hs, .inr ?_⟩
    have : x.1.length ≠ 0 := by simpa using hne
    have := congrArg List.length hs
    simp only [List.length_append] at this ⊢
    omega

theorem joins_giveBack? {lead c : Cut} (h : giveBack? lead = some c) :
    c.1 ++ c.2 = lead.1 ++ lead.2 := by
  unfold giveBack? at h
  split at h
  · next hend =>
    split at h
    · simp at h
    · next d front hd =>
      split at h
      · obtain rfl := Option.some.inj h
        have hr : lead.1.reverse.takeWhile (· == '\n') ++ (d :: front) = lead.1.reverse := by
          rw [← hd]; exact List.takeWhile_append_dropWhile
        have := congrArg List.reverse hr
        simpa [hend] using this
      · simp at h
  · obtain rfl := Option.some.inj h
    rfl

theorem covers_findInclude? {s : List Char} {m : Match} (h : findInclude? s = some m) :
    m.Covers s := by
  obtain ⟨word, hw, h⟩ := Option.bind_eq_some_iff.1 h
  obtain ⟨lead, hl, rfl⟩ := Option.map_eq_some_iff.1 h
  obtain ⟨rest, hmem, hl⟩ := List.exists_of_findSome?_eq_some hl
  refine Match.covers_plain ?_
  have hjoin := (joins_giveBack? hl).trans (cutBefore_join (suffix_of_mem_restsBehindLead hmem))
  rw [← joins_cutWord? _ hw, ← hjoin]
  simp [List.takeWhile_append_dropWhile]

theorem joins_cutInlineComment? : Joins cutInlineComment? := by
  intro s c h
  unfold cutInlineComment? at h
  split at h
  · obtain ⟨x, hx, rfl⟩ := Option.map_eq_some_iff.1 h
    simp [joins_cutThrough? (joins_cutMark? _) hx]
  · simp at h

theorem joins_cutClosingComment? : Joins cutClosingComment? := by
  intro s c h
  unfold cutClosingComment? at h
  split at h
  · obtain rfl := Option.some.inj h
    simp
  · simp at h

namespace Rule

/-- An `#if 0` as the first item of its line. -/
def disabledStart : Rule :=
  atLineStart
    { find? := fun _ s => findDirective? cutDisabledStart? .disabled s
      covers := covers_findDirective? joins_cutDisabledStart? }

/-- A `#` as the first item of its line. -/
def directiveStart : Rule :=
  atLineStart
    { find? := fun _ s => findDirective? (cutMark? ['#']) .directive s
      covers := covers_findDirective? (joins_cutMark? _) }

/-- The word `include` in a directive, and the file that it names. -/
def includeFile : Rule where
  find? _ s := findInclude? s
  covers := covers_findInclude?

/-- Text of a directive without a slash. -/
def directiveText : Rule :=
  one .directive .stay (cutRun? fun c => c != '/' && c != '\n') (joins_cutRun? _)

/-- A block comment in a directive, which may hold line feeds. -/
def inlineComment : Rule :=
  one .blockComment .stay cutInlineComment? joins_cutInlineComment?

/-- A line comment in a directive, which ends it. -/
def closingComment : Rule :=
  one .lineComment .pop cutClosingComment? joins_cutClosingComment?

/-- A slash of a directive that opens no comment. -/
def directiveSlash : Rule :=
  one .directive .stay (cutMark? ['/']) (joins_cutMark? _)

/-- A line feed behind a backslash, which continues a directive. -/
def directiveContinuation : Rule :=
  guarded .directive .stay (cutMark? ['\n']) (.precededBy '\\') joins_lineFeed

def directiveEnd : Rule :=
  one .directive .pop (cutMark? ['\n']) joins_lineFeed

end Rule

end GaussMarkup
