/-
# What a pattern matches and decodes

A pattern whose parameters have the default matcher is told by its tokens alone.  Its tokens
compile unless a name occurs twice, and a URL is decoded along the greatest split of its path,
one parameter after the other (`tryDecode_eq`, `decodeTexts_eq_some_iff`).  The whole behaviour
is `FollowsTokens`, which every such pattern has at every address
(`compile_followsTokens`).

Decoding takes the text of each group in turn, and stops at the first text that does not decode.
`decodeTexts` is that loop on a list of parameters with their texts; it is related to the groups
once (`decodeParams_eq`), and everything else is said of the list, by induction on it.
-/

import Routing.Pattern.Coding
import Routing.Proofs.Dictionary
import Routing.Proofs.Pattern.Splits
import Routing.Proofs.Traversal

namespace Routing

/-- A text of a path stands for a value of the parameter. -/
def Param.DecodesTo (p : Param) (r : Text) (value : Value) : Prop :=
  ∃ s, Percent.decode? r = some s ∧ p.decoder.decode s = .ok value

/-! ### Names of tokens -/

namespace Token

/-- No name is reported just if no name is repeated. -/
theorem repeatedNames_eq_nil_iff {seen : List Text} (hseen : seen.Nodup) (names : List Text) :
    repeatedNames seen names = [] ↔ (∀ name ∈ names, name ∉ seen) ∧ names.Nodup := by
  induction names generalizing seen with
  | nil => simp [repeatedNames]
  | cons name names ih =>
    rw [repeatedNames]
    by_cases hmem : name ∈ seen
    · rw [if_pos (hseen.count.trans (if_pos hmem))]
      simp [hmem]
    · rw [if_neg (by rw [hseen.count, if_neg hmem]; decide),
        ih (List.nodup_cons.mpr ⟨hmem, hseen⟩)]
      simp only [List.mem_cons, not_or, List.nodup_cons, forall_eq_or_imp]
      constructor
      · rintro ⟨h, hnodup⟩
        exact ⟨⟨hmem, fun n hn => (h n hn).2⟩, fun hn => (h name hn).1 rfl, hnodup⟩
      · rintro ⟨⟨_, h⟩, hname, hnodup⟩
        exact ⟨fun n hn => ⟨fun heq => hname (heq ▸ hn), h n hn⟩, hnodup⟩

/-- Putting a token in front keeps the parameters. -/
theorem params_push (token : Token) (tokens : List Token) :
    params (push token tokens) = params (token :: tokens) := by
  unfold push
  split <;> rfl

/-- Joining keeps the parameters. -/
theorem params_join (tokens : List Token) : params (join tokens) = params tokens := by
  induction tokens with
  | nil => rfl
  | cons token tokens ih =>
    show params (push token (join tokens)) = _
    rw [params_push, params, List.filterMap_cons, ← params, ih]
    rfl

/-- A slash at the front adds no parameter. -/
theorem params_rooted (tokens : List Token) : params (rooted tokens) = params tokens := by
  unfold rooted
  split <;> rfl

end Token

namespace Pattern

/-! ### The texts of a split -/

/-- The values of texts, each for its parameter.  The first text that does not decode or is no
value of its parameter decides. -/
def decodeTexts : List (Param × Text) → Except DecodeError (Option (List Value))
  | [] => .ok (some [])
  | (p, r) :: pairs =>
    match Percent.decode? r with
    | none => .ok none
    | some s =>
      match p.decoder.decode s with
      | .error e => .error e
      | .ok value => (decodeTexts pairs).map (Option.map (value :: ·))

/-- A first text that decodes does not decide, and its value comes first. -/
theorem decodeTexts_cons {p : Param} {r : Text} {value : Value} (h : p.DecodesTo r value)
    (pairs : List (Param × Text)) :
    decodeTexts ((p, r) :: pairs) = (decodeTexts pairs).map (Option.map (value :: ·)) := by
  obtain ⟨s, hs, hvalue⟩ := h
  rw [decodeTexts, hs]
  simp only [hvalue]

/-- Texts decode when each of them stands for a value of its parameter. -/
theorem decodeTexts_eq_some_iff {pairs : List (Param × Text)} {values : List Value} :
    decodeTexts pairs = .ok (some values) ↔
      List.Forall₂ (fun pair value => pair.1.DecodesTo pair.2 value) pairs values := by
  induction pairs generalizing values with
  | nil =>
    simp only [decodeTexts, Except.ok.injEq, Option.some.injEq, List.forall₂_nil_left_iff]
    exact eq_comm
  | cons pair pairs ih =>
    obtain ⟨p, r⟩ := pair
    rw [List.forall₂_cons_left_iff]
    constructor
    · intro h
      rw [decodeTexts] at h
      split at h
      · simp at h
      case h_2 s hs =>
        split at h
        · simp at h
        case h_2 value hvalue =>
          -- The first text decodes; the others decide.
          cases hrest : decodeTexts pairs with
          | error e => simp [hrest, Except.map] at h
          | ok found =>
            cases found with
            | none => simp [hrest, Except.map] at h
            | some rest =>
              obtain rfl : value :: rest = values := by simpa [hrest, Except.map] using h
              exact ⟨value, rest, ⟨s, hs, hvalue⟩, ih.mp hrest, rfl⟩
    · rintro ⟨value, rest, hvalue, hrest, rfl⟩
      rw [decodeTexts_cons hvalue, ih.mpr hrest]
      rfl

/-- Texts in front that decode do not decide. -/
theorem decodeTexts_append {before : List (Param × Text)}
    (h : ∀ pair ∈ before, ∃ value, pair.1.DecodesTo pair.2 value) (pairs : List (Param × Text)) :
    ∃ values, decodeTexts (before ++ pairs) =
      (decodeTexts pairs).map (Option.map (values ++ ·)) := by
  induction before with
  | nil =>
    refine ⟨[], ?_⟩
    rw [List.nil_append]
    rcases decodeTexts pairs with e | _ | values <;> rfl
  | cons pair before ih =>
    obtain ⟨value, hvalue⟩ := h pair List.mem_cons_self
    obtain ⟨values, hvalues⟩ := ih fun pair hpair => h pair (List.mem_cons_of_mem _ hpair)
    refine ⟨value :: values, ?_⟩
    rw [List.cons_append, decodeTexts_cons hvalue, hvalues]
    rcases decodeTexts pairs with e | _ | values <;> rfl

/-- The values of parameters by name. -/
def named (params : List Param) (values : List Value) : Dictionary Value :=
  Dictionary.ofList ((params.map Param.name).zip values)

/-- Every parameter has its own value, since names differ. -/
theorem get?_named {params : List Param} {values : List Value}
    (hnames : (params.map Param.name).Nodup) (hlength : values.length = params.length)
    {pair : Param × Value} (h : pair ∈ params.zip values) :
    (named params values).get? pair.1.name = some pair.2 := by
  refine Dictionary.get?_ofList ?_ ?_
  · rwa [List.map_fst_zip (by simp [hlength])]
  · rw [List.zip_map_left]
    exact List.mem_map_of_mem h

/-- Parameters are decoded by the texts of their groups. -/
theorem decodeParams_eq {texts : List (Nat × Text)} {params : List Param} {rs : List Text}
    {n : Nat} (hlength : rs.length = params.length)
    (hlookup : ∀ i < params.length, texts.lookup (n + i + 1) = rs[i]?) (d : Dictionary Value) :
    decodeParams texts (params.zip ((List.range' n params.length).map (· + 1))) d =
      (decodeTexts (params.zip rs)).map (Option.map fun values => ((params.map Param.name).zip
        values).foldl (fun d (key, value) => d.insert key value) d) := by
  induction params generalizing rs n d with
  | nil => rfl
  | cons p params ih =>
    -- The groups are counted from `n + 1` on, which is the one of the first text.
    obtain ⟨r, rs, rfl⟩ : ∃ r rs', rs = r :: rs' := List.exists_cons_of_length_eq_add_one hlength
    have hr : texts.lookup (n + 1) = some r := by simpa using hlookup 0 (by simp)
    rw [List.length_cons, List.range'_succ, List.map_cons, List.zip_cons_cons, List.zip_cons_cons,
      decodeParams, hr, Option.bind_some, decodeTexts]
    cases hs : Percent.decode? r with
    | none => rfl
    | some s =>
      dsimp only
      cases hvalue : p.decoder.decode s with
      | error e => rfl
      | ok value =>
        dsimp only
        rw [ih (Nat.succ.inj hlength) fun i hi => ?_]
        · rcases decodeTexts (params.zip rs) with e | _ | values <;> rfl
        · have := hlookup (i + 1) (Nat.succ_lt_succ hi)
          rw [List.getElem?_cons_succ] at this
          rw [← this]
          congr 1
          omega

variable {p : Pattern}

/-! ### Patterns with default matchers -/

/-- The matchers of a pattern's parameters are the default ones. -/
def HasDefaultMatchers (p : Pattern) : Prop := Token.HasDefaultMatchers p.tokens

/-- The expression of a pattern with default matchers, and its groups. -/
theorem HasDefaultMatchers.compiled_eq (h : p.HasDefaultMatchers) :
    p.regex.expr = Token.expr p.tokens ∧
      p.groups = (List.range p.params.length).map (· + 1) := by
  obtain ⟨r, hr, hexpr⟩ := Token.compile_eq_ok h
  have := p.compiled.symm.trans hr
  obtain ⟨rfl, hgroups⟩ := Prod.mk.inj (Except.ok.inj this)
  exact ⟨hexpr, hgroups⟩

/-- **A path matches if it can be split.** -/
theorem HasDefaultMatchers.isMatch_eq (h : p.HasDefaultMatchers) (url : Text) :
    p.isMatch url =
      (Address.read? url).any fun address => (Token.greatest? p.tokens address.path).isSome := by
  simp only [isMatch, Regex.isMatch, Token.captures?_eq h.compiled_eq.1, Option.isSome_map]

/-- **A URL is decoded along the greatest split of its path.**  Here the expression is left behind:
the groups of its match are the texts of the split. -/
theorem HasDefaultMatchers.tryDecode_eq (h : p.HasDefaultMatchers) {url : Text} {address : Address}
    (hurl : Address.read? url = some address) :
    p.tryDecode url =
      match Token.greatest? p.tokens address.path with
      | none => .ok none
      | some texts =>
        (decodeTexts (p.params.zip texts)).map (Option.map fun values =>
          ⟨named p.params values, address.search, address.hash⟩) := by
  obtain ⟨hexpr, hgroups⟩ := h.compiled_eq
  rw [tryDecode, hurl]
  dsimp only
  rw [Token.captures?_eq hexpr]
  cases hgreatest : Token.greatest? p.tokens address.path with
  | none => rfl
  | some texts =>
    have hlength : texts.length = p.params.length :=
      (Token.isGreatestSplit_of_greatest? hgreatest).splits.length_eq
    have hlookup (i : Nat) (hi : i < p.params.length) :
        (Token.captured 0 texts []).lookup (0 + i + 1) = texts[i]? :=
      Token.lookup_captured (hlength ▸ hi) []
    rw [Option.map_some, hgroups, List.range_eq_range']
    dsimp only
    rw [decodeParams_eq hlength hlookup]
    rcases decodeTexts (p.params.zip texts) with e | _ | values <;> rfl

/-- **A URL decodes when the texts of the greatest split of its path do.** -/
theorem HasDefaultMatchers.decode_eq_some_iff (h : p.HasDefaultMatchers) {url : Text}
    {address : Address} (hurl : Address.read? url = some address) {data : RouteData} :
    p.decode url = some data ↔ ∃ texts values,
      Token.IsGreatestSplit p.tokens address.path texts ∧
        List.Forall₂ (fun pair value => pair.1.DecodesTo pair.2 value) (p.params.zip texts) values ∧
        data = ⟨named p.params values, address.search, address.hash⟩ := by
  rw [decode, h.tryDecode_eq hurl]
  constructor
  · intro hdecode
    cases hgreatest : Token.greatest? p.tokens address.path with
    | none =>
      rw [hgreatest] at hdecode
      cases hdecode
    | some texts =>
      rw [hgreatest] at hdecode
      dsimp only at hdecode
      rcases hvalues : decodeTexts (p.params.zip texts) with e | _ | values
      · rw [hvalues] at hdecode
        cases hdecode
      · rw [hvalues] at hdecode
        cases hdecode
      · rw [hvalues] at hdecode
        exact ⟨texts, values, Token.isGreatestSplit_of_greatest? hgreatest,
          decodeTexts_eq_some_iff.mp hvalues, (Option.some.inj hdecode).symm⟩
  · rintro ⟨texts, values, hgreatest, hvalues, rfl⟩
    rw [Token.greatest?_eq_some_iff.mpr hgreatest]
    dsimp only
    rw [decodeTexts_eq_some_iff.mpr hvalues]
    rfl

/-- What a pattern does with a URL at an address, told by its tokens. -/
structure FollowsTokens (p : Pattern) (url : Text) (address : Address) : Prop where
  /-- The URL matches if its path can be split. -/
  isMatch_iff : p.isMatch url ↔ ∃ texts, Token.Splits p.tokens address.path texts
  /-- A path that cannot be split has no data. -/
  not_splits : (¬∃ texts, Token.Splits p.tokens address.path texts) → p.tryDecode url = .ok none
  /-- A path that can be split has a greatest split. -/
  greatest : (∃ texts, Token.Splits p.tokens address.path texts) →
    ∃ texts, Token.IsGreatestSplit p.tokens address.path texts
  /-- Behind texts that decode, a text that is not UTF-8 leaves no data. -/
  undecodable : ∀ texts, Token.IsGreatestSplit p.tokens address.path texts →
    ∀ before param r after, p.params.zip texts = before ++ (param, r) :: after →
      (∀ pair ∈ before, ∃ value, pair.1.DecodesTo pair.2 value) →
      Percent.decode? r = none → p.tryDecode url = .ok none
  /-- Behind texts that decode, the failure of a parameter is the failure of the whole. -/
  failed : ∀ texts, Token.IsGreatestSplit p.tokens address.path texts →
    ∀ before param r after, p.params.zip texts = before ++ (param, r) :: after →
      (∀ pair ∈ before, ∃ value, pair.1.DecodesTo pair.2 value) →
      ∀ s e, Percent.decode? r = some s → param.decoder.decode s = .error e →
      p.tryDecode url = .error e
  /-- The data hold the values by name, together with the search and the hash. -/
  decoded : ∀ texts, Token.IsGreatestSplit p.tokens address.path texts →
    (∀ pair ∈ p.params.zip texts, ∃ value, pair.1.DecodesTo pair.2 value) →
    ∃ data, p.tryDecode url = .ok (some data) ∧
      (∀ name, name ∈ data.params.keys ↔ name ∈ p.params.map Param.name) ∧
      (∀ param r, (param, r) ∈ p.params.zip texts →
        ∃ value, param.DecodesTo r value ∧ data.params.get? param.name = some value) ∧
      data.search = address.search ∧ data.hash = address.hash

/-- A pattern with default matchers does what its tokens say. -/
theorem HasDefaultMatchers.followsTokens (h : p.HasDefaultMatchers)
    (hnames : (p.params.map Param.name).Nodup) {url : Text} {address : Address}
    (hurl : Address.read? url = some address) :
    p.FollowsTokens url address := by
  have hdecode {texts : List Text} (hgreatest : Token.IsGreatestSplit p.tokens address.path texts) :
      p.tryDecode url = (decodeTexts (p.params.zip texts)).map (Option.map fun values =>
        ⟨named p.params values, address.search, address.hash⟩) := by
    rw [h.tryDecode_eq hurl, Token.greatest?_eq_some_iff.mpr hgreatest]
  have hexists (hsplits : ∃ texts, Token.Splits p.tokens address.path texts) :
      ∃ texts, Token.greatest? p.tokens address.path = some texts := by
    obtain ⟨texts, hsplits⟩ := hsplits
    exact Option.ne_none_iff_exists'.mp (Token.greatest?_eq_none hsplits)
  -- One case for each clause: whether the path matches, what is decoded without a split, that there
  -- is a greatest one, an error, a mismatch, and values for all parameters.
  refine ⟨?_, fun hnone => ?_, fun hsplits => ?_, ?_, ?_, fun texts hgreatest hvalues => ?_⟩
  case refine_1 =>
    rw [h.isMatch_eq, hurl, Option.any_some, Option.isSome_iff_exists]
    constructor
    · rintro ⟨texts, htexts⟩
      exact ⟨texts, (Token.isGreatestSplit_of_greatest? htexts).splits⟩
    · exact hexists
  case refine_2 =>
    rw [h.tryDecode_eq hurl]
    cases hfound : Token.greatest? p.tokens address.path with
    | none => rfl
    | some texts => exact absurd ⟨texts, (Token.isGreatestSplit_of_greatest? hfound).splits⟩ hnone
  case refine_3 =>
    obtain ⟨texts, htexts⟩ := hexists hsplits
    exact ⟨texts, Token.isGreatestSplit_of_greatest? htexts⟩
  case refine_4 =>
    intro texts hgreatest before param r after hzip hbefore hr
    obtain ⟨values, hvalues⟩ := decodeTexts_append hbefore ((param, r) :: after)
    rw [hdecode hgreatest, hzip, hvalues, decodeTexts, hr]
    rfl
  case refine_5 =>
    intro texts hgreatest before param r after hzip hbefore s e hs he
    obtain ⟨values, hvalues⟩ := decodeTexts_append hbefore ((param, r) :: after)
    rw [hdecode hgreatest, hzip, hvalues, decodeTexts, hs]
    simp only [he]
    rfl
  case refine_6 =>
    obtain ⟨values, hforall⟩ := exists_forall₂ hvalues
    have hlength : texts.length = p.params.length := hgreatest.splits.length_eq
    have hlength' : values.length = p.params.length := by
      rw [← hforall.length_eq, List.length_zip, hlength, Nat.min_self]
    have hkeys : ((p.params.map Param.name).zip values).map Prod.fst = p.params.map Param.name :=
      List.map_fst_zip (by simp [hlength'])
    refine ⟨⟨named p.params values, address.search, address.hash⟩, ?_, fun name => ?_,
      fun param r hmem => ?_, rfl, rfl⟩
    · rw [hdecode hgreatest, decodeTexts_eq_some_iff.mpr hforall]
      rfl
    · rw [named, Dictionary.mem_keys_ofList, hkeys]
    · obtain ⟨value, hvalue, hzip⟩ := exists_mem_zip hforall hmem
      have hmem' : (param, value) ∈ p.params.zip values := by
        have hparams := List.map_fst_zip (Nat.le_of_eq hlength.symm)
        rw [← hparams, List.zip_map_left]
        exact List.mem_map_of_mem hzip
      exact ⟨value, hvalue, get?_named hnames hlength' hmem'⟩

/-! ### From segments to the pattern -/

/-- Tokens are a pattern unless a name occurs twice. -/
theorem ofTokens_eq_error_iff {tokens : List Token} (h : Token.HasDefaultMatchers tokens)
    {e : CompileError} :
    ofTokens tokens = .error e ↔
      ¬((Token.params tokens).map Param.name).Nodup ∧
        e = .duplicateParameters
          (Token.repeatedNames [] ((Token.params tokens).map Param.name)) := by
  have hnodup := Token.repeatedNames_eq_nil_iff List.nodup_nil
    ((Token.params tokens).map Param.name)
  simp only [List.not_mem_nil, not_false_eq_true, implies_true, true_and] at hnodup
  rw [← hnodup]
  obtain ⟨r, hr, -⟩ := Token.compile_eq_ok h
  unfold ofTokens
  split
  case h_1 hnil =>
    split
    case h_1 => simp [hnil]
    case h_2 e' he' => simp [hr] at he'
  case h_2 names hne =>
    simp only [Except.error.injEq]
    exact ⟨fun heq => ⟨hne, heq.symm⟩, fun h => h.2.symm⟩

/-- Tokens that make up a pattern are its tokens, and their names differ. -/
theorem ofTokens_eq_ok {tokens : List Token} (h : ofTokens tokens = .ok p) :
    p.tokens = tokens ∧ (p.params.map Param.name).Nodup := by
  have hnodup := Token.repeatedNames_eq_nil_iff List.nodup_nil
    ((Token.params tokens).map Param.name)
  unfold ofTokens at h
  split at h
  case h_1 hnil =>
    split at h
    case h_1 =>
      obtain rfl := Except.ok.inj h
      exact ⟨rfl, (hnodup.mp hnil).2⟩
    case h_2 => simp at h
  case h_2 => simp at h

/-- The tokens of segments. -/
theorem params_rooted_join (tokens : List Token) :
    Token.params (Token.rooted (Token.join tokens)) = Token.params tokens := by
  rw [Token.params_rooted, Token.params_join]

/-- **Segments with default matchers compile unless a name occurs twice, and the pattern does what
its tokens say.**  No regular expression is left in what this states: a URL matches if its path can
be split along the tokens, with a text without a slash for each parameter; of several splits the
greatest one is taken, and its texts are decoded from left to right, up to the first one that
fails. -/
theorem compile_followsTokens (segments : List Segment)
    (h : Token.HasDefaultMatchers (segments.flatMap Segment.tokens)) :
    (∀ e, compile segments = .error e ↔
      ¬((Token.params (segments.flatMap Segment.tokens)).map Param.name).Nodup ∧
        e = .duplicateParameters (Token.repeatedNames []
          ((Token.params (segments.flatMap Segment.tokens)).map Param.name))) ∧
    ∀ p, compile segments = .ok p →
      p.tokens = Token.rooted (Token.join (segments.flatMap Segment.tokens)) ∧
      (∀ url, Address.read? url = none → p.isMatch url = false ∧ p.tryDecode url = .ok none) ∧
      ∀ url address, Address.read? url = some address → p.FollowsTokens url address := by
  have htokens : Token.HasDefaultMatchers
      (Token.rooted (Token.join (segments.flatMap Segment.tokens))) := by
    rwa [Token.HasDefaultMatchers, params_rooted_join]
  refine ⟨fun e => ?_, fun p hp => ?_⟩
  · rw [compile, ofTokens_eq_error_iff htokens, params_rooted_join]
  · obtain ⟨heq, hnodup⟩ := ofTokens_eq_ok hp
    refine ⟨heq, fun url hurl => ⟨?_, ?_⟩, fun url address hurl => ?_⟩
    · rw [isMatch, hurl, Option.any_none]
    · rw [tryDecode, hurl]
    · exact HasDefaultMatchers.followsTokens (by rwa [HasDefaultMatchers, heq]) hnodup hurl

/-- A literal with metacharacters, and two parameters that follow each other. -/
theorem compile_followsTokens_adjacent :
    ∃ p, compile [.literal ".*\n(".toList, .param ⟨['a'], .string⟩, .param ⟨['b'], .integer⟩] =
        .ok p ∧
      ∀ url address, Address.read? url = some address → p.FollowsTokens url address := by
  have h : ∀ p ∈ [Param.mk ['a'] .string, Param.mk ['b'] .integer],
      p.decoder.matcher = defaultMatcher := by simp [Decoder.matcher]
  obtain ⟨herror, hok⟩ := compile_followsTokens
    [.literal ".*\n(".toList, .param ⟨['a'], .string⟩, .param ⟨['b'], .integer⟩] h
  cases hcompile : compile
      [.literal ".*\n(".toList, .param ⟨['a'], .string⟩, .param ⟨['b'], .integer⟩] with
  | error e => exact absurd (by decide) ((herror e).mp hcompile).1
  | ok p => exact ⟨p, rfl, (hok p hcompile).2.2⟩

end Pattern
end Routing
