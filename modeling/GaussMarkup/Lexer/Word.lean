import GaussMarkup.Lexer.Rule
import GaussMarkup.Lexicon.Words

/-!
# Words

A name is taken whole. What it is depends on the lists of fixed words and on what follows it: the
header of a structure, loop or one-line function, a call, a label, a member access; otherwise it is
a plain name. The parameters in the header of a one-line function, everything up to the next equals
sign, are lexed on their own.
-/

namespace GaussMarkup

/-- A name, if it is on a list in any case. -/
def cutListedName? (words : List String) (s : List Char) : Option Cut :=
  (cutName? s).filter fun x => words.contains (String.ofList (x.1.map fold))

/-- A word of a list with a name behind it. -/
def findHeader? (words : List String) (kind : Kind) (s : List Char) : Option Match :=
  (cutListedName? words s).bind fun word =>
    (cutRun? isBlank word.2).bind fun blanks =>
      (cutName? blanks.2).map fun name =>
        .plain [⟨.keyword, word.1⟩, ⟨.whitespace, blanks.1⟩, ⟨kind, name.1⟩] name.2 .stay

/-- The header of a one-line function: `fn`, a name, parameters and an equals sign. -/
def findFunctionHeader? (s : List Char) : Option Match :=
  (cutListedName? ["fn"] s).bind fun word =>
    (cutRun? isBlank word.2).bind fun blanks =>
      (cutName? blanks.2).bind fun name =>
        let parameters := name.2.takeWhile (· != '=')
        (cutMark? ['='] (name.2.dropWhile (· != '='))).map fun sign =>
          ⟨[⟨.keyword, word.1⟩, ⟨.whitespace, blanks.1⟩, ⟨.functionName, name.1⟩], parameters,
            [⟨.punctuation, sign.1⟩], sign.2, .stay⟩

/-- A name with an open parenthesis behind it. -/
def findCall? (s : List Char) : Option Match :=
  (cutName? s).bind fun name =>
    (cutMark? ['('] (name.2.dropWhile isBlank)).map fun paren =>
      .plain
        (⟨.functionName, name.1⟩ :: lexemeOf .whitespace (name.2.takeWhile isBlank) ++
          [⟨.punctuation, paren.1⟩])
        paren.2 .stay

/-- A name with a single colon behind it. No blanks are looked for in front of the name, as other
rules have taken them by then. -/
def findLabel? (before : Option Char) (s : List Char) : Option Match :=
  (cutName? s).bind fun name =>
    ((cutMark? [':'] name.2).filter fun colon =>
        (Guard.notFollowedBy ':').admits before (name.1 ++ colon.1) colon.2).map fun colon =>
      .plain [⟨.label, name.1⟩, ⟨.punctuation, colon.1⟩] colon.2 .stay

/-- The sign between a structure and its member. -/
def cutMemberSign? (s : List Char) : Option Cut :=
  (cutMark? ['.'] s).or (cutMark? ['-', '>'] s)

/-- The name of a structure and a member of it. -/
def findMemberAccess? (s : List Char) : Option Match :=
  (cutName? s).bind fun name =>
    (cutMemberSign? name.2).bind fun sign =>
      (cutName? sign.2).map fun member =>
        .plain [⟨.name, name.1⟩, ⟨.punctuation, sign.1⟩, ⟨.member, member.1⟩] member.2
          (.push .member)

/-- A dot and a further member. -/
def findMemberLink? (s : List Char) : Option Match :=
  (cutMark? ['.'] s).bind fun dot =>
    (cutName? dot.2).map fun member =>
      .plain [⟨.punctuation, dot.1⟩, ⟨.member, member.1⟩] member.2 .stay

theorem joins_cutListedName? (words : List String) : Joins (cutListedName? words) := by
  intro s c h
  exact joins_cutName? (Option.filter_eq_some_iff.1 h).1

theorem joins_cutMemberSign? : Joins cutMemberSign? := by
  intro s c h
  rcases Option.or_eq_some_iff.1 h with h | ⟨_, h⟩
  · exact joins_cutMark? _ h
  · exact joins_cutMark? _ h

theorem covers_findHeader? {words : List String} {kind : Kind} {s : List Char} {m : Match}
    (h : findHeader? words kind s = some m) : m.Covers s := by
  obtain ⟨word, hw, h⟩ := Option.bind_eq_some_iff.1 h
  obtain ⟨blanks, hb, h⟩ := Option.bind_eq_some_iff.1 h
  obtain ⟨name, hn, rfl⟩ := Option.map_eq_some_iff.1 h
  refine Match.covers_plain ?_
  rw [← joins_cutListedName? _ hw, ← joins_cutRun? _ hb, ← joins_cutName? hn]
  simp

theorem covers_findFunctionHeader? {s : List Char} {m : Match}
    (h : findFunctionHeader? s = some m) : m.Covers s := by
  obtain ⟨word, hw, h⟩ := Option.bind_eq_some_iff.1 h
  obtain ⟨blanks, hb, h⟩ := Option.bind_eq_some_iff.1 h
  obtain ⟨name, hn, h⟩ := Option.bind_eq_some_iff.1 h
  obtain ⟨sign, hs, rfl⟩ := Option.map_eq_some_iff.1 h
  have hjoin : s = word.1 ++ (blanks.1 ++ (name.1 ++
      (name.2.takeWhile (· != '=') ++ (sign.1 ++ sign.2)))) := by
    rw [joins_cutMark? _ hs, List.takeWhile_append_dropWhile, joins_cutName? hn,
      joins_cutRun? _ hb, joins_cutListedName? _ hw]
  have hsign : sign.1 = ['='] := by
    unfold cutMark? at hs
    split at hs
    · exact (congrArg Prod.fst (Option.some.inj hs)).symm
    · simp at hs
  refine ⟨by rw [hjoin]; simp [Match.text], .inr ?_⟩
  rw [hjoin, hsign]
  simp only [List.length_append, List.length_cons, List.length_nil]
  omega

theorem covers_findCall? {s : List Char} {m : Match} (h : findCall? s = some m) : m.Covers s := by
  obtain ⟨name, hn, h⟩ := Option.bind_eq_some_iff.1 h
  obtain ⟨paren, hp, rfl⟩ := Option.map_eq_some_iff.1 h
  refine Match.covers_plain ?_
  rw [← joins_cutName? hn]
  simp only [textOf_append, textOf_cons, textOf_lexemeOf, textOf_nil, List.append_nil,
    List.append_assoc, joins_cutMark? _ hp, List.takeWhile_append_dropWhile]

theorem covers_findLabel? {before : Option Char} {s : List Char} {m : Match}
    (h : findLabel? before s = some m) : m.Covers s := by
  obtain ⟨name, hn, h⟩ := Option.bind_eq_some_iff.1 h
  obtain ⟨colon, hc, rfl⟩ := Option.map_eq_some_iff.1 h
  refine Match.covers_plain ?_
  rw [← joins_cutName? hn, ← joins_cutMark? _ (Option.filter_eq_some_iff.1 hc).1]
  simp

theorem covers_findMemberAccess? {s : List Char} {m : Match} (h : findMemberAccess? s = some m) :
    m.Covers s := by
  obtain ⟨name, hn, h⟩ := Option.bind_eq_some_iff.1 h
  obtain ⟨sign, hs, h⟩ := Option.bind_eq_some_iff.1 h
  obtain ⟨member, hm, rfl⟩ := Option.map_eq_some_iff.1 h
  refine Match.covers_plain ?_
  rw [← joins_cutName? hn, ← joins_cutMemberSign? hs, ← joins_cutName? hm]
  simp

theorem covers_findMemberLink? {s : List Char} {m : Match} (h : findMemberLink? s = some m) :
    m.Covers s := by
  obtain ⟨dot, hd, h⟩ := Option.bind_eq_some_iff.1 h
  obtain ⟨member, hm, rfl⟩ := Option.map_eq_some_iff.1 h
  refine Match.covers_plain ?_
  rw [← joins_cutMark? _ hd, ← joins_cutName? hm]
  simp

namespace Rule

/-- The word `struct` and the name of a structure. -/
def structHeader : Rule where
  find? _ s := findHeader? ["struct"] .className s
  covers := covers_findHeader?

/-- A loop word and its variable. -/
def loopHeader : Rule where
  find? _ s := findHeader? ["for", "threadfor"] .name s
  covers := covers_findHeader?

def functionHeader : Rule where
  find? _ s := findFunctionHeader? s
  covers := covers_findFunctionHeader?

def literalWord : Rule :=
  one .literal .stay (cutListedName? literalWords) (joins_cutListedName? _)

def keywordWord : Rule :=
  one .keyword .stay (cutListedName? keywordWords) (joins_cutListedName? _)

def declarationWord : Rule :=
  one .declaration .stay (cutListedName? declarationWords) (joins_cutListedName? _)

def call : Rule where
  find? _ s := findCall? s
  covers := covers_findCall?

/-- A label at the start of its line. -/
def label : Rule :=
  atLineStart
    { find? := findLabel?
      covers := covers_findLabel? }

/-- A structure and its member. -/
def memberAccess : Rule where
  find? _ s := findMemberAccess? s
  covers := covers_findMemberAccess?

/-- Any other name. -/
def name : Rule :=
  one .name .stay cutName? joins_cutName?

def memberLink : Rule where
  find? _ s := findMemberLink? s
  covers := covers_findMemberLink?

/-- The end of a chain of members, which takes nothing. -/
def memberEnd : Rule where
  find? _ s := some (.plain [] s .pop)
  covers := by
    intro _ s m h
    obtain rfl := Option.some.inj h
    exact Match.covers_plain rfl

end Rule

end GaussMarkup
