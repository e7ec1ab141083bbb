import Jkannel.Routing.Verdicts

/-!
# Spaces in a wildcard pattern

The alternatives of a pattern are trimmed before they are compiled, so `25677* | 25678*` matches what
`25677*|25678*` matches.  How specific the pattern is, is counted over its raw text, spaces included,
and the spaced spelling outranks the other.

* `Respelt` are two wildcard routes that differ in nothing but such a spelling.
* `spacing_iff` says when the spelling makes no difference to any selection.
-/

namespace Jkannel.Routing

open List

/-- The pattern of a wildcard route. -/
def patternOf (route : CandidateRoute) : String :=
  (route.matchPrefix.or route.destinationPrefix).getD ""

/-- Two patterns that compile to one matcher: they have the same alternatives, and neither is
refused, or both are. -/
def SameMatcher (p q : String) : Prop :=
  splitAlternatives p = splitAlternatives q ∧
    (describeWildcardProblem p).isNone = (describeWildcardProblem q).isNone

/-- A route without its patterns. -/
def blank (route : CandidateRoute) : CandidateRoute :=
  { route with
    matchPrefix := none
    destinationPrefix := none }

/-- Two wildcard routes that differ in the spelling of their patterns. -/
structure Respelt (r r' : CandidateRoute) : Prop where
  wildcard : r.routeType = .wildcard
  same : blank r = blank r'
  matcher : SameMatcher (patternOf r) (patternOf r')

/-- A verdict without the reason of a route that does not match, which quotes its pattern. -/
def unquoted (v : RouteVerdict) : RouteVerdict :=
  { v with reason := if v.verdict = .noMatch then "" else v.reason }

/-- Two lists of routes are decided alike, and the verdicts on them say the same but for the pattern
that they quote. -/
def SameSelection (env : TextEngine) (routes routes' : List CandidateRoute)
    (ctx : SelectionContext) : Prop :=
  selectRoute env routes ctx = selectRoute env routes' ctx ∧
    (candidates env routes ctx).map unquoted = (candidates env routes' ctx).map unquoted

variable {env : TextEngine} {routes routes' : List CandidateRoute} {ctx : SelectionContext}
  {r r' : CandidateRoute} {k : Nat} {route : CandidateRoute}

/-! ## What the patterns are read for -/

/-- Routes that are one without their patterns have every other field in common. -/
theorem blank_field {α : Type} (f : CandidateRoute → α) (h : blank r = blank r')
    (hf : ∀ route, f (blank route) = f route := by exact fun _ => rfl) : f r = f r' := by
  rw [← hf r, ← hf r', h]

theorem Respelt.symm (h : Respelt r r') : Respelt r' r := by
  refine ⟨?_, h.same.symm, h.matcher.1.symm, h.matcher.2.symm⟩
  have : (blank r).routeType = (blank r').routeType := by rw [h.same]
  exact this.symm.trans h.wildcard

theorem SameMatcher.matchesWildcard {p q : String} (h : SameMatcher p q) (value : Option String) :
    matchesWildcard env value p = matchesWildcard env value q := by
  cases value with
  | none => rfl
  | some value => simp only [Routing.matchesWildcard, h.1, h.2]

theorem matchesWildcard_blank {p : String} (h : Text.trim p = "") (value : Option String) :
    matchesWildcard env value p = false := by
  cases value with
  | none => rfl
  | some value => simp [matchesWildcard, describeWildcardProblem, h]

/-- The sender constraint lets the message through. -/
def senderAllows (env : TextEngine) (route : CandidateRoute) (ctx : SelectionContext) : Bool :=
  !(Text.truthy route.sender).any fun pattern =>
    !matchesWildcard env (some (ctx.sender.getD "")) pattern

theorem matchSpecificity_wildcard (h : r.routeType = .wildcard) :
    matchSpecificity env r ctx =
      if senderAllows env r ctx &&
        matchesWildcard env (some (digitsOnly (some ctx.msisdn))) (patternOf r) then
          some (wildcardSpecificity (patternOf r))
      else none := by
  rw [matchSpecificity, senderAllows, h]
  split
  · next hsender => simp [hsender]
  · next hsender =>
    rw [Bool.not_eq_true] at hsender
    rw [hsender]
    simp only [Bool.not_false, Bool.true_and, patternOf]
    split
    · next hblank => rw [matchesWildcard_blank hblank]; rfl
    · rfl

/-- A respelt route applies when the other does, with a specificity of its own. -/
theorem Respelt.applies (h : Respelt r r') (happlies : Applies env ctx r k) :
    k = wildcardSpecificity (patternOf r) ∧
      Applies env ctx r' (wildcardSpecificity (patternOf r')) := by
  obtain ⟨henabled, hwindow, hk⟩ := happlies
  have hfields : r'.enabled = r.enabled ∧ r'.window = r.window ∧ r'.sender = r.sender :=
    ⟨(blank_field (·.enabled) h.same).symm, (blank_field (·.window) h.same).symm,
      (blank_field (·.sender) h.same).symm⟩
  have hallows : senderAllows env r' ctx = senderAllows env r ctx := by
    rw [senderAllows, senderAllows, hfields.2.2]
  rw [matchSpecificity_wildcard h.wildcard] at hk
  split at hk
  · next hmatches =>
    refine ⟨(Option.some.inj hk).symm, by rw [hfields.1, henabled], by rw [hfields.2.1, hwindow], ?_⟩
    rw [matchSpecificity_wildcard h.symm.wildcard, hallows, ← h.matcher.matchesWildcard,
      if_pos hmatches]
  · cases hk

/-! ## What the selection is made of -/

/-- A route that applies, without its patterns. -/
def blankMatch (m : CandidateRoute × Nat) : CandidateRoute × Nat := (blank m.1, m.2)

theorem matchedRoutes_blank :
    (matchedRoutes env routes ctx).map blankMatch =
      ((applicable env routes ctx).map blankMatch).insertionSort (compareMatches env · · ≠ .gt) :=
  map_insertionSort _ _ blankMatch _ fun _ _ _ _ => Iff.rfl

theorem chooseSmsc_blank (matched : List (CandidateRoute × Nat)) (controlling : CandidateRoute) :
    chooseSmsc env (matched.map blankMatch) (blank controlling) ctx =
      chooseSmsc env matched controlling ctx := by
  have hcheapest : cheapest env (matched.map blankMatch) ctx = cheapest env matched ctx := by
    rw [cheapest, cheapest, flatMap_map]
    rfl
  have hstrategy : (blank controlling).strategy = controlling.strategy := rfl
  rw [chooseSmsc, chooseSmsc, hstrategy, hcheapest]
  rfl

/-- The selection, from the routes that apply without their patterns. -/
theorem selectRoute_of_blank (h : (matchedRoutes env routes ctx).map blankMatch =
      (matchedRoutes env routes' ctx).map blankMatch) :
    selectRoute env routes ctx = selectRoute env routes' ctx := by
  rw [selectRoute, selectRoute]
  split
  · rfl
  · cases hm : matchedRoutes env routes ctx with
    | nil =>
      rw [hm, map_nil, eq_comm, map_eq_nil_iff] at h
      rw [h]
    | cons m rest =>
      cases hm' : matchedRoutes env routes' ctx with
      | nil =>
        rw [hm, hm'] at h
        cases h
      | cons m' rest' =>
        rw [hm, hm'] at h
        have hchoice : chooseSmsc env (m :: rest) m.1 ctx = chooseSmsc env (m' :: rest') m'.1 ctx := by
          have hhead : blank m.1 = blank m'.1 := congrArg Prod.fst (List.cons.inj h).1
          rw [← chooseSmsc_blank (m :: rest), ← chooseSmsc_blank (m' :: rest'), h, hhead]
        have hlength : rest.length = rest'.length := by
          simpa using congrArg List.length (List.cons.inj h).2
        have hblank : blank m.1 = blank m'.1 := congrArg Prod.fst (List.cons.inj h).1
        have hid : m.1.id = m'.1.id := blank_field (·.id) hblank
        have hname : m.1.name = m'.1.name := blank_field (·.name) hblank
        have htype : m.1.routeType = m'.1.routeType := blank_field (·.routeType) hblank
        have hpriority : m.1.priority = m'.1.priority := blank_field (·.priority) hblank
        have hstrategy : m.1.strategy = m'.1.strategy := blank_field (·.strategy) hblank
        have heffect : effectOf m.1 = effectOf m'.1 := blank_field effectOf hblank
        dsimp only
        rw [show (m.1, m.2) = m from rfl, show (m'.1, m'.2) = m' from rfl, hchoice, hlength]
        simp only [finish, hid, hname, htype, hpriority, hstrategy, heffect]

/-! ## What the verdicts are made of -/

/-- The verdict on a route, from its fields and what it would be told. -/
def verdictOf (ids : List String) (told : CandidateRoute × String) : RouteVerdict where
  routeId := told.1.id
  name := told.1.name
  priority := told.1.priority
  verdict := if told.1.id ∈ ids then .outranked else .noMatch
  reason := if told.1.id ∈ ids then "Matches" else told.2

/-- The verdicts on two lists that differ in patterns are the same as far as the routes are told the
same. -/
theorem verdicts_blank (ids : List String) (why : CandidateRoute → String)
    (h : routes.map (fun r => (blank r, why r)) = routes'.map fun r => (blank r, why r)) :
    (routes.insertionSort (compareListed env · · ≠ .gt)).map
        (fun r => verdictOf ids (blank r, why r)) =
      (routes'.insertionSort (compareListed env · · ≠ .gt)).map
        fun r => verdictOf ids (blank r, why r) := by
  have hsort : ∀ l : List CandidateRoute,
      (l.insertionSort (compareListed env · · ≠ .gt)).map (fun r => (blank r, why r)) =
        (l.map fun r => (blank r, why r)).insertionSort (compareListed env ·.1 ·.1 ≠ .gt) :=
    fun l => map_insertionSort _ _ _ l fun _ _ _ _ => Iff.rfl
  have hmap : ∀ l : List CandidateRoute, l.map (fun r => verdictOf ids (blank r, why r)) =
      (l.map fun r => (blank r, why r)).map (verdictOf ids) := by
    intro l
    rw [map_map]
    rfl
  rw [hmap, hmap, hsort, hsort, h]

theorem unquoted_verdictOn (route : CandidateRoute) :
    unquoted (verdictOn env routes ctx route) =
      verdictOf (matchedIds env routes ctx) (blank route, "") := by
  by_cases h : route.id ∈ matchedIds env routes ctx
  all_goals simp [unquoted, verdictOn, verdictOf, blank, h]

theorem markSelected_unquoted (winner : String) (vs : List RouteVerdict) :
    (markSelected winner vs).map unquoted = markSelected winner (vs.map unquoted) := by
  induction vs with
  | nil => rfl
  | cons v vs ih =>
    rw [markSelected, map_cons, markSelected]
    by_cases h : v.routeId = winner
    · rw [if_pos h, if_pos (show (unquoted v).routeId = winner from h)]
      rfl
    · rw [if_neg h, if_neg (show ¬ (unquoted v).routeId = winner from h), map_cons, ih]

/-! ## Two spellings in one list -/

theorem applicable_of_applies (h : Applies env ctx route k) :
    applicable env [route] ctx = [(route, k)] := by
  obtain ⟨henabled, hwindow, hk⟩ := h
  simp [applicable, henabled, hwindow, hk]

theorem applicable_of_not_applies (h : ∀ k, ¬ Applies env ctx route k) :
    applicable env [route] ctx = [] := by
  refine eq_nil_iff_forall_not_mem.mpr fun m hm => ?_
  have : m ∈ matchedRoutes env [route] ctx := (mem_insertionSort _).mpr hm
  obtain ⟨hroute, happlies⟩ := mem_matchedRoutes.mp this
  rw [mem_singleton] at hroute
  exact h m.2 (hroute ▸ happlies)

section Lists

variable {before after : List CandidateRoute}

theorem applicable_split (route : CandidateRoute) : applicable env (before ++ route :: after) ctx =
    applicable env before ctx ++ (applicable env [route] ctx ++ applicable env after ctx) := by
  rw [applicable, filterMap_append, ← singleton_append, filterMap_append]
  rfl

/-- When both spellings are as specific, or neither applies, the same routes apply. -/
theorem applicable_respelt (h : Respelt r r') (hsame : ∀ k, Applies env ctx r k →
      wildcardSpecificity (patternOf r) = wildcardSpecificity (patternOf r')) :
    (applicable env (before ++ r :: after) ctx).map blankMatch =
      (applicable env (before ++ r' :: after) ctx).map blankMatch := by
  have hone : (applicable env [r] ctx).map blankMatch =
      (applicable env [r'] ctx).map blankMatch := by
    by_cases happlies : ∃ k, Applies env ctx r k
    · obtain ⟨k, hk⟩ := happlies
      obtain ⟨rfl, hk'⟩ := h.applies hk
      rw [applicable_of_applies hk, applicable_of_applies hk', map_singleton,
        map_singleton, blankMatch, blankMatch, h.same, hsame _ hk]
    · have hnot : ∀ k, ¬ Applies env ctx r k := fun k hk => happlies ⟨k, hk⟩
      have hnot' : ∀ k, ¬ Applies env ctx r' k :=
        fun k hk => happlies ⟨_, (h.symm.applies hk).2⟩
      rw [applicable_of_not_applies hnot, applicable_of_not_applies hnot']
  rw [applicable_split, applicable_split, map_append, map_append, hone, map_append, map_append]

theorem matchedIds_blank (h : (applicable env routes ctx).map blankMatch =
    (applicable env routes' ctx).map blankMatch) :
    matchedIds env routes ctx = matchedIds env routes' ctx := by
  have hids : ∀ l : List (CandidateRoute × Nat),
      l.map (fun m => m.1.id) = (l.map blankMatch).map fun m => m.1.id := by
    intro l
    rw [map_map]
    rfl
  rw [matchedIds, matchedIds, hids (applicable env routes ctx), h, ← hids]

/-- Verdicts that agree before there is a winner agree when it is marked. -/
theorem candidates_blank (f : RouteVerdict → RouteVerdict)
    (hf : ∀ winner vs, (markSelected winner vs).map f = markSelected winner (vs.map f))
    (hmatched : (matchedRoutes env routes ctx).map blankMatch =
      (matchedRoutes env routes' ctx).map blankMatch)
    (hverdicts : (verdicts env routes ctx).map f = (verdicts env routes' ctx).map f) :
    (candidates env routes ctx).map f = (candidates env routes' ctx).map f := by
  rw [candidates, candidates]
  split
  · rfl
  · cases hm : matchedRoutes env routes ctx with
    | nil =>
      rw [hm, map_nil, eq_comm, map_eq_nil_iff] at hmatched
      rw [hmatched]
      exact hverdicts
    | cons m rest =>
      cases hm' : matchedRoutes env routes' ctx with
      | nil =>
        rw [hm, hm'] at hmatched
        cases hmatched
      | cons m' rest' =>
        rw [hm, hm'] at hmatched
        have hid : m.1.id = m'.1.id :=
          blank_field (·.id) (congrArg Prod.fst (List.cons.inj hmatched).1)
        rw [hf, hf, hverdicts, hid]

/-- A spelling as specific as the other, wherever the route applies, is decided alike. -/
theorem sameSelection_respelt (h : Respelt r r') (hsame : ∀ k, Applies env ctx r k →
      wildcardSpecificity (patternOf r) = wildcardSpecificity (patternOf r')) :
    SameSelection env (before ++ r :: after) (before ++ r' :: after) ctx := by
  have happlicable : (applicable env (before ++ r :: after) ctx).map blankMatch =
      (applicable env (before ++ r' :: after) ctx).map blankMatch :=
    applicable_respelt h hsame
  have hmatched : (matchedRoutes env (before ++ r :: after) ctx).map blankMatch =
      (matchedRoutes env (before ++ r' :: after) ctx).map blankMatch := by
    rw [matchedRoutes_blank, matchedRoutes_blank, happlicable]
  refine ⟨selectRoute_of_blank hmatched, candidates_blank unquoted markSelected_unquoted hmatched ?_⟩
  have hverdicts : ∀ l, (verdicts env l ctx).map unquoted =
      (l.insertionSort (compareListed env · · ≠ .gt)).map
        fun route => verdictOf (matchedIds env l ctx) (blank route, "") := by
    intro l
    rw [verdicts, map_map]
    exact map_congr_left fun route _ => unquoted_verdictOn route
  rw [hverdicts, hverdicts, matchedIds_blank happlicable]
  refine verdicts_blank _ (fun _ => "") ?_
  rw [map_append, map_cons, map_append, map_cons, h.same]

/-- It is told alike, too, when both spellings are. -/
theorem candidates_respelt (h : Respelt r r') (hsame : ∀ k, Applies env ctx r k →
      wildcardSpecificity (patternOf r) = wildcardSpecificity (patternOf r'))
    (htold : whyNotMatched env r ctx = whyNotMatched env r' ctx) :
    candidates env (before ++ r :: after) ctx = candidates env (before ++ r' :: after) ctx := by
  have happlicable : (applicable env (before ++ r :: after) ctx).map blankMatch =
      (applicable env (before ++ r' :: after) ctx).map blankMatch :=
    applicable_respelt h hsame
  have hmatched : (matchedRoutes env (before ++ r :: after) ctx).map blankMatch =
      (matchedRoutes env (before ++ r' :: after) ctx).map blankMatch := by
    rw [matchedRoutes_blank, matchedRoutes_blank, happlicable]
  have hcandidates := candidates_blank id (fun _ _ => by rw [map_id, map_id]) hmatched
  rw [map_id, map_id, map_id, map_id] at hcandidates
  refine hcandidates ?_
  rw [verdicts, verdicts]
  have hverdict : ∀ l, verdictOn env l ctx = fun route =>
      verdictOf (matchedIds env l ctx) (blank route, whyNotMatched env route ctx) :=
    fun _ => rfl
  rw [hverdict, hverdict, matchedIds_blank happlicable]
  refine verdicts_blank _ (fun route => whyNotMatched env route ctx) ?_
  rw [map_append, map_cons, map_append, map_cons, h.same, htold]

end Lists

/-! ## A competitor -/

/-- A competitor of the same spelling, of a lower priority number. -/
def rival (route : CandidateRoute) : CandidateRoute :=
  { route with
    id := route.id ++ "'"
    priority := route.priority - 1 }

theorem rival_id_ne (route : CandidateRoute) : (rival route).id ≠ route.id := by
  intro h
  have : (route.id ++ "'").length = route.id.length := congrArg String.length h
  simp at this

/-- Of two routes that apply, the one that precedes controls. -/
theorem selectRoute_two {a b : CandidateRoute} {ka kb : Nat}
    (hdigits : digitsOnly (some ctx.msisdn) ≠ "") (ha : Applies env ctx a ka)
    (hb : Applies env ctx b kb) :
    (selectRoute env [a, b] ctx).routeId =
      some (if compareMatches env (a, ka) (b, kb) ≠ .gt then a.id else b.id) := by
  have happlicable : applicable env [a, b] ctx = [(a, ka), (b, kb)] := by
    have : applicable env ([] ++ [a, b]) ctx =
        applicable env [] ctx ++ (applicable env [a] ctx ++ applicable env [b] ctx) :=
      applicable_split a
    rw [applicable_of_applies ha, applicable_of_applies hb] at this
    exact this
  have hmatched : matchedRoutes env [a, b] ctx =
      if compareMatches env (a, ka) (b, kb) ≠ .gt then [(a, ka), (b, kb)] else [(b, kb), (a, ka)] := by
    rw [matchedRoutes, happlicable]
    rfl
  split at hmatched
  · next hfirst =>
    obtain ⟨trace, heq⟩ := selectRoute_of_matched hdigits hmatched
    rw [heq, if_pos hfirst]
    rfl
  · next hsecond =>
    obtain ⟨trace, heq⟩ := selectRoute_of_matched hdigits hmatched
    rw [heq, if_neg hsecond]
    rfl

/-- A spelling that is less specific than the other loses to its rival, and the other does not. -/
theorem rival_tells (h : Respelt r r') (hdigits : digitsOnly (some ctx.msisdn) ≠ "")
    (happlies : Applies env ctx r k)
    (hlt : wildcardSpecificity (patternOf r) < wildcardSpecificity (patternOf r')) :
    selectRoute env [r, rival r] ctx ≠ selectRoute env [r', rival r] ctx := by
  obtain ⟨rfl, happlies'⟩ := h.applies happlies
  have hrival : Applies env ctx (rival r) (wildcardSpecificity (patternOf r)) := happlies
  have hloses : ¬ compareMatches env (r, wildcardSpecificity (patternOf r))
      (rival r, wildcardSpecificity (patternOf r)) ≠ .gt := by
    have hpriority : r.priority ≠ r.priority - 1 := by omega
    rw [compareMatches_ne_gt, Precedes]
    simp [rival, hpriority]
  have hwins : compareMatches env (r', wildcardSpecificity (patternOf r'))
      (rival r, wildcardSpecificity (patternOf r)) ≠ .gt := compareMatches_ne_gt.mpr (.inl hlt)
  intro heq
  have hid := congrArg SelectionResult.routeId heq
  rw [selectRoute_two hdigits happlies hrival, selectRoute_two hdigits happlies' hrival,
    if_neg hloses, if_pos hwins, Option.some.injEq, ← blank_field (·.id) h.same] at hid
  exact rival_id_ne r hid

/-- A route alone that does not apply is told why. -/
theorem whyNotMatched_of_candidates (hdigits : digitsOnly (some ctx.msisdn) ≠ "")
    (h : Respelt r r') (hcandidates : candidates env [r] ctx = candidates env [r'] ctx) :
    whyNotMatched env r ctx = whyNotMatched env r' ctx := by
  by_cases happlies : ∃ k, Applies env ctx r k
  · obtain ⟨k, hk⟩ := happlies
    rw [whyNotMatched_eq_empty.mpr ⟨k, hk⟩, whyNotMatched_eq_empty.mpr ⟨_, (h.applies hk).2⟩]
  · have hnot : ∀ k, ¬ Applies env ctx r k := fun k hk => happlies ⟨k, hk⟩
    have hnot' : ∀ k, ¬ Applies env ctx r' k := fun k hk => happlies ⟨_, (h.symm.applies hk).2⟩
    have hlone : ∀ {route : CandidateRoute}, (∀ k, ¬ Applies env ctx route k) →
        (candidates env [route] ctx).map RouteVerdict.reason = [whyNotMatched env route ctx] := by
      intro route hnone
      rw [candidates, if_neg hdigits, matchedRoutes, applicable_of_not_applies hnone]
      simp [verdicts, verdictOn, matchedIds, applicable_of_not_applies hnone]
    have := congrArg (List.map RouteVerdict.reason) hcandidates
    rw [hlone hnot, hlone hnot'] at this
    exact (List.cons.inj this).1

/-- Spellings of different specificities are told apart by a rival of the less specific one. -/
theorem specificity_of_sameSelection (h : Respelt r r')
    (hdigits : digitsOnly (some ctx.msisdn) ≠ "")
    (hsame : ∀ after, selectRoute env (r :: after) ctx = selectRoute env (r' :: after) ctx)
    (hk : Applies env ctx r k) :
    wildcardSpecificity (patternOf r) = wildcardSpecificity (patternOf r') := by
  rcases lt_trichotomy (wildcardSpecificity (patternOf r)) (wildcardSpecificity (patternOf r'))
    with hlt | heq | hgt
  · exact absurd (hsame [rival r]) (rival_tells h hdigits hk hlt)
  · exact heq
  · exact absurd (hsame [rival r']).symm (rival_tells h.symm hdigits (h.applies hk).2 hgt)

theorem selectRoute_undialled (h : digitsOnly (some ctx.msisdn) = "") :
    selectRoute env routes ctx = selectRoute env routes' ctx ∧
      candidates env routes ctx = candidates env routes' ctx := by
  rw [selectRoute, selectRoute, candidates, candidates]
  simp only [if_pos h, and_self]

/-- **When spaces around the separators change nothing**: every list of routes is decided alike when
the route does not apply to the message or both spellings are as specific.  The verdicts are the same
to the letter when, besides, both spellings are told the same. -/
theorem spacing_iff (h : Respelt r r') :
    ((∀ before after, SameSelection env (before ++ r :: after) (before ++ r' :: after) ctx) ↔
      (digitsOnly (some ctx.msisdn) ≠ "" → ∀ k, Applies env ctx r k →
        wildcardSpecificity (patternOf r) = wildcardSpecificity (patternOf r'))) ∧
    ((∀ before after,
        selectRoute env (before ++ r :: after) ctx = selectRoute env (before ++ r' :: after) ctx ∧
          candidates env (before ++ r :: after) ctx =
            candidates env (before ++ r' :: after) ctx) ↔
      (digitsOnly (some ctx.msisdn) ≠ "" →
        (∀ k, Applies env ctx r k →
          wildcardSpecificity (patternOf r) = wildcardSpecificity (patternOf r')) ∧
        whyNotMatched env r ctx = whyNotMatched env r' ctx)) := by
  refine ⟨⟨fun hsame hdigits k hk => ?_, fun hsame before after => ?_⟩,
    ⟨fun hsame hdigits => ⟨fun k hk => ?_, ?_⟩, fun hsame before after => ?_⟩⟩
  · exact specificity_of_sameSelection h hdigits (fun after => (hsame [] after).1) hk
  · by_cases hdigits : digitsOnly (some ctx.msisdn) = ""
    · obtain ⟨hresult, hverdicts⟩ :
          selectRoute env (before ++ r :: after) ctx = selectRoute env (before ++ r' :: after) ctx ∧
            candidates env (before ++ r :: after) ctx = candidates env (before ++ r' :: after) ctx :=
        selectRoute_undialled hdigits
      exact ⟨hresult, by rw [hverdicts]⟩
    · exact sameSelection_respelt h (hsame hdigits)
  · exact specificity_of_sameSelection h hdigits (fun after => (hsame [] after).1) hk
  · exact whyNotMatched_of_candidates hdigits h (hsame [] []).2
  · by_cases hdigits : digitsOnly (some ctx.msisdn) = ""
    · exact selectRoute_undialled hdigits
    · obtain ⟨hspecificity, htold⟩ := hsame hdigits
      exact ⟨(sameSelection_respelt h hspecificity).1, candidates_respelt h hspecificity htold⟩

/-- A wildcard route over the first bind. -/
def toMtn (pattern : String) : CandidateRoute :=
  { toUganda with
    id := "mtn"
    name := "mtn"
    routeType := .wildcard
    matchPrefix := some pattern
    priority := 10 }

/-- What the spellings of two patterns come to. -/
theorem mtn_evaluated :
    SameMatcher (patternOf (toMtn "25677*|256*")) (patternOf (toMtn "25677* |256*")) ∧
    SameMatcher (patternOf (toMtn "25677*|25678*")) (patternOf (toMtn "25677* | 25678*")) ∧
    (selectRoute .ascii
      [toMtn "25677*|25678*", { toUganda with matchPrefix := some "25677", priority := 1 }]
      (kampala 0)).routeId ≠
    (selectRoute .ascii
      [toMtn "25677* | 25678*", { toUganda with matchPrefix := some "25677", priority := 1 }]
      (kampala 0)).routeId := by
  unfold SameMatcher
  decide +kernel

/-- A space in the longer alternative only: the shorter one says how specific the pattern is. -/
theorem spacing_iff_kampala :
    SameSelection .ascii [toMtn "25677*|256*", toUganda] [toMtn "25677* |256*", toUganda]
      (kampala 0) :=
  (spacing_iff ⟨rfl, rfl, mtn_evaluated.1⟩).1.mpr (fun _ _ _ => by decide +kernel) [] [toUganda]

/-- The spaces win the pattern a race that it loses without them. -/
theorem spaces_outrank :
    Respelt (toMtn "25677*|25678*") (toMtn "25677* | 25678*") ∧
      ¬ SameSelection .ascii
        [toMtn "25677*|25678*", { toUganda with matchPrefix := some "25677", priority := 1 }]
        [toMtn "25677* | 25678*", { toUganda with matchPrefix := some "25677", priority := 1 }]
        (kampala 0) :=
  ⟨⟨rfl, rfl, mtn_evaluated.2.1⟩, fun h => mtn_evaluated.2.2 (congrArg SelectionResult.routeId h.1)⟩

end Jkannel.Routing
