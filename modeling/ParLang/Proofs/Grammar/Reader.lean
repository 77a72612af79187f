import ParLang.Program.Parser

/-!
# What readers take

A reader that succeeds comes apart into readers that succeed (`Reader.bind_eq_ok`). `Stream R s` says
that the stream `s` stands before the results `R`, and for each of the small readers there is one
statement on what it took when it succeeded, and one that says when it does.
-/

namespace ParLang

namespace TokenStream

/-- The stream over tokens without a fault. -/
def ofTokens : List Token → TokenStream
  | [] => ⟨endToken, []⟩
  | t :: ts => ⟨t, ts.map .ok⟩

/-- Tokens without a fault among them are a stream. -/
theorem ofResults_map_ok (ts : List Token) : ofResults (ts.map .ok) = .ok (ofTokens ts) := by
  cases ts <;> rfl

/-- The next token of a list is its first one. -/
@[simp] theorem lookahead_ofTokens_cons (t : Token) (ts : List Token) :
    (ofTokens (t :: ts)).lookahead = t := rfl

/-- Behind the last token there is an end. -/
@[simp] theorem lookahead_ofTokens_nil : (ofTokens []).lookahead = endToken := rfl

end TokenStream

open TokenStream

/-- The stream stands before the results. -/
def Stream (R : List (Except LexError Token)) (s : TokenStream) : Prop :=
  ofResults R = .ok s

namespace Reader

variable {α β : Type} {R : List (Except LexError Token)} {s s' : TokenStream} {kind : Token.Kind}
  {t : Token} {ts : List Token} {b : Bool}

/-- A sequence of readers succeeds if both do, one after the other. -/
theorem bind_eq_ok {x : Reader α} {f : α → Reader β} {c : β} :
    (x >>= f) s = .ok (c, s') ↔ ∃ a s₁, x s = .ok (a, s₁) ∧ f a s₁ = .ok (c, s') := by
  show (Except.bind (x s) fun r => f r.1 r.2) = .ok (c, s') ↔ _
  cases hx : x s with
  | error e =>
    constructor
    · intro h; cases h
    · rintro ⟨_, _, h, _⟩; cases h
  | ok r =>
    obtain ⟨a, s₁⟩ := r
    constructor
    · intro h; exact ⟨a, s₁, rfl, h⟩
    · rintro ⟨_, _, h, hf⟩; cases h; exact hf

/-- Where the first reader succeeds the second one goes on behind it. -/
theorem bind_apply_ok {x : Reader α} {f : α → Reader β} {a : α} (h : x s = .ok (a, s')) :
    (x >>= f) s = f a s' := by
  show (Except.bind (x s) fun r => f r.1 r.2) = _
  rw [h]; rfl

/-- What reads nothing stays where it is. -/
theorem pure_eq_ok {a a' : α} : (pure a : Reader α) s = .ok (a', s') ↔ a = a' ∧ s = s' := by
  constructor
  · intro h; cases h; exact ⟨rfl, rfl⟩
  · rintro ⟨rfl, rfl⟩; rfl

/-- Changing what is read takes no token. -/
theorem map_eq_ok {x : Reader α} {f : α → β} {c : β} :
    (f <$> x) s = .ok (c, s') ↔ ∃ a, x s = .ok (a, s') ∧ f a = c := by
  show (x >>= fun a => pure (f a)) s = .ok (c, s') ↔ _
  simp only [bind_eq_ok, pure_eq_ok]
  constructor
  · rintro ⟨a, _, hx, hf, rfl⟩; exact ⟨a, hx, hf⟩
  · rintro ⟨a, hx, hf⟩; exact ⟨a, s', hx, hf, rfl⟩

/-- A look at the next token takes nothing. -/
theorem peek_eq_ok : peek s = .ok (t, s') ↔ s.lookahead = t ∧ s = s' := by
  constructor
  · intro h; cases h; exact ⟨rfl, rfl⟩
  · rintro ⟨rfl, rfl⟩; rfl

/-- Nor does a check of its kind. -/
theorem check_eq_ok : check kind s = .ok (b, s') ↔ (s.lookahead.kind == kind) = b ∧ s = s' := by
  constructor
  · intro h; cases h; exact ⟨rfl, rfl⟩
  · rintro ⟨rfl, rfl⟩; rfl

/-- A refusal never succeeds. -/
theorem not_reject_eq_ok {cause : Token → SyntaxError.Cause} {a : α} :
    reject cause s ≠ .ok (a, s') := by
  intro h; cases h

/-- Nor does a spent budget. -/
theorem not_spent_eq_ok {a : α} : spent s ≠ .ok (a, s') := not_reject_eq_ok

/-! ## What was taken -/

/-- A token that is taken is the next one of the results, unless they are at their end. -/
theorem eq_cons_of_advance (hs : Stream R s) (h : advance s = .ok (t, s'))
    (heof : s.lookahead.kind ≠ .eof) :
    t = s.lookahead ∧ ∃ R', R = .ok t :: R' ∧ Stream R' s' := by
  rw [advance] at h
  split at h
  · next s₁ hrest =>
    obtain ⟨rfl, rfl⟩ := Prod.mk.inj (Except.ok.inj h)
    refine ⟨rfl, ?_⟩
    cases R with
    | nil =>
      obtain rfl := Except.ok.inj hs
      exact absurd rfl heof
    | cons r R' =>
      cases r with
      | error e => cases hs
      | ok t' =>
        obtain rfl := Except.ok.inj hs
        exact ⟨R', rfl, hrest⟩
  · cases h

/-- The token that is taken is of the kind that was looked at. -/
theorem eq_cons_of_advance_kind (hs : Stream R s) (hkind : s.lookahead.kind = kind) (heof : kind ≠ .eof)
    (h : advance s = .ok (t, s')) :
    t.kind = kind ∧ ∃ R', R = .ok t :: R' ∧ Stream R' s' := by
  obtain ⟨rfl, hR⟩ := eq_cons_of_advance hs h (hkind ▸ heof)
  exact ⟨hkind, hR⟩

/-- What had to be there was there. -/
theorem lookahead_kind_of_expect (h : expect kind s = .ok (t, s')) : s.lookahead.kind = kind := by
  simp only [expect, bind_eq_ok, check_eq_ok] at h
  obtain ⟨b, _, ⟨hb, rfl⟩, h⟩ := h
  split at h
  · next hnext => simpa [hnext] using hb
  · exact absurd h not_reject_eq_ok

/-- It was the first of the results, and the others follow. -/
theorem eq_cons_of_expect (hs : Stream R s) (h : expect kind s = .ok (t, s'))
    (heof : kind ≠ .eof) : t.kind = kind ∧ ∃ R', R = .ok t :: R' ∧ Stream R' s' := by
  simp only [expect, bind_eq_ok, check_eq_ok] at h
  obtain ⟨b, _, ⟨hb, rfl⟩, h⟩ := h
  split at h
  · next hnext =>
    have hkind : s.lookahead.kind = kind := by simpa [hnext] using hb
    exact eq_cons_of_advance_kind hs hkind heof h
  · exact absurd h not_reject_eq_ok

/-- What `accept` took, if it took something. -/
theorem eq_cons_of_accept (hs : Stream R s) (h : accept kind s = .ok (b, s')) (heof : kind ≠ .eof) :
    (b = true ∧ ∃ t R', t.kind = kind ∧ R = .ok t :: R' ∧ Stream R' s') ∨
      (b = false ∧ s' = s ∧ s.lookahead.kind ≠ kind) := by
  simp only [accept, bind_eq_ok, check_eq_ok] at h
  obtain ⟨b', _, ⟨hb', rfl⟩, h⟩ := h
  split at h
  · next hnext =>
    have hkind : s.lookahead.kind = kind := by simpa [hnext] using hb'
    simp only [bind_eq_ok, pure_eq_ok] at h
    obtain ⟨t, s₁, hadvance, rfl, rfl⟩ := h
    obtain ⟨rfl, R', hR, hs'⟩ := eq_cons_of_advance hs hadvance (hkind ▸ heof)
    exact .inl ⟨rfl, _, R', hkind, hR, hs'⟩
  · next hnext =>
    obtain ⟨rfl, rfl⟩ := pure_eq_ok.mp h
    refine .inr ⟨rfl, rfl, ?_⟩
    rintro rfl
    simp [hnext] at hb'

/-! ## When they succeed -/

/-- The first token of a list is taken, and the rest is left. -/
theorem advance_ofTokens (t : Token) (ts : List Token) :
    advance (ofTokens (t :: ts)) = .ok (t, ofTokens ts) := by
  simp only [advance, ofTokens, ofResults_map_ok]

/-- A token of the kind that has to be there is taken. -/
theorem expect_ofTokens (h : t.kind = kind) :
    expect kind (ofTokens (t :: ts)) = .ok (t, ofTokens ts) := by
  simp only [expect, bind_eq_ok, check_eq_ok]
  refine ⟨true, _, ⟨by simp [h], rfl⟩, ?_⟩
  exact advance_ofTokens t ts

/-- A token of the kind that may be there is taken. -/
theorem accept_ofTokens (h : t.kind = kind) :
    accept kind (ofTokens (t :: ts)) = .ok (true, ofTokens ts) := by
  simp only [accept, bind_eq_ok, check_eq_ok]
  refine ⟨true, _, ⟨by simp [h], rfl⟩, ?_⟩
  rw [if_pos rfl, bind_eq_ok]
  exact ⟨t, _, advance_ofTokens t ts, rfl⟩

/-- A token of another kind stays. -/
theorem accept_eq_false (h : s.lookahead.kind ≠ kind) : accept kind s = .ok (false, s) := by
  simp only [accept, bind_eq_ok, check_eq_ok]
  exact ⟨false, s, ⟨by simpa using h, rfl⟩, rfl⟩

end Reader

end ParLang
