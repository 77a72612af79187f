import ParLang.Proofs.Grammar.Complaints
import ParLang.Proofs.Grammar.Exact
import ParLang.Proofs.Token.Scanning

/-!
# Beginnings of phrases

Some tokens begin a phrase if there are more with which they become one (`Begins`). A reader that fails
should stand behind such tokens and complain about the token behind them, or about a fault there
(`Complains`). The one exception is the header of a loop, whose update is refused only when it has been
read; behind the word `for` nothing is said of what was taken.

`Halts D pre m P x` is this statement about a reader `x` that stands behind the tokens `pre` of a phrase
of `D`, where `P` holds of the next token and the tokens of the phrase are fewer than the steps `m` allow.
There is one rule for each way to build a reader. A reader inside another one is done by its own
statement, and what it takes by `Reads`: its phrase stands behind `pre`, and the rest goes on from there.
-/

namespace ParLang

/-- The token that the complaint is about, where it is about the token found. -/
def SyntaxError.Cause.found? : SyntaxError.Cause → Option Token
  | .expected _ found | .expectedAssign found | .expectedAfterName found | .expectedType found
  | .expectedExpression found | .expectedDigits found => some found
  | .invalidNumber _ | .updateNotAssignment | .budgetSpent => none

namespace Grammar

open Reader TokenStream

variable {α β γ : Type} {D : List Token → α → Prop} {E : List Token → β → Prop} {a : α}
  {pre ts us : List Token} {R R' : List (Except LexError Token)} {P Q : Token → Prop} {m n : Nat}
  {kind : Token.Kind} {e : ParseError}

/-! ## Beginnings -/

/-- A token of a source text that opens no header of a loop. -/
structure Plain (t : Token) : Prop where
  formed : t.Formed
  noLoop : t.kind ≠ .forLoop

/-- A header of a loop was opened among the tokens. -/
def OpensLoop (ts : List Token) : Prop :=
  ∃ t ∈ ts, t.kind = .forLoop

/-- There are tokens with which these become a phrase, unless a header of a loop was opened. -/
structure Begins (D : List Token → α → Prop) (ts : List Token) : Prop where
  endless : Endless ts
  completed : OpensLoop ts ∨ ∃ us a, (∀ u ∈ us, Plain u) ∧ D (ts ++ us) a

namespace Begins

/-- A whole phrase begins one. -/
theorem of_phrase (h : D ts a) (hend : Endless ts) : Begins D ts :=
  ⟨hend, .inr ⟨[], a, nofun, by rwa [List.append_nil]⟩⟩

/-- The tokens of a phrase, in the order in which they were taken. -/
theorem of_eq (h : D us a) (hend : Endless us) (heq : us = ts) : Begins D ts :=
  heq ▸ of_phrase h hend

/-- The beginning of a phrase may be cut shorter, unless a header of a loop was cut off. -/
theorem of_append (hus : ∀ u ∈ us, Plain u) (h : Begins D (ts ++ us)) : Begins D ts := by
  refine ⟨(Endless.append_iff.mp h.endless).1, ?_⟩
  rcases h.completed with ⟨t, ht, hloop⟩ | ⟨vs, a, hvs, hD⟩
  · rcases List.mem_append.mp ht with ht | ht
    · exact .inl ⟨t, ht, hloop⟩
    · exact absurd hloop (hus t ht).noLoop
  · refine .inr ⟨us ++ vs, a, fun u hu => ?_, by rwa [← List.append_assoc]⟩
    exact (List.mem_append.mp hu).elim (hus u) (hvs u)

/-- The beginning of a phrase that stands in a larger one. -/
theorem within (h : Begins E ts) (hE : ∀ us c, E us c → Begins D (pre ++ us)) (hpre : Endless pre) :
    Begins D (pre ++ ts) := by
  rcases h.completed with ⟨t, ht, hloop⟩ | ⟨us, c, hus, hc⟩
  · exact ⟨Endless.append_iff.mpr ⟨hpre, h.endless⟩, .inl ⟨t, List.mem_append_right _ ht, hloop⟩⟩
  · exact of_append hus (by rw [List.append_assoc]; exact hE _ c hc)

/-- Before a phrase that begins somewhere stands the beginning of the larger one. -/
theorem before (h : Begins E []) (hE : ∀ us c, E us c → Begins D (pre ++ us)) : Begins D pre := by
  rcases h.completed with ⟨t, ht, -⟩ | ⟨us, c, hus, hc⟩
  · cases ht
  · exact of_append hus (hE us c hc)

end Begins

/-- A text for each kind that can be asked for. -/
def sampleText : Token.Kind → String
  | .identifier => "x"
  | .number => "0"
  | .typeName => "number"
  | kind => kind.spelling?.getD ""

/-- A token of the kind. -/
def sample (kind : Token.Kind) : Token :=
  ⟨kind, sampleText kind, 1, ⟨0, 0⟩⟩

/-- The sample texts are ones that the lexer reads as tokens of their kinds. -/
theorem sample_formed (kind : Token.Kind) : (sample kind).Formed := by
  refine ⟨?_, ?_, ?_, ?_⟩ <;> intro h <;> obtain rfl : kind = _ := h
  · exact ⟨Cursor.isWord_iff.mp (by decide +kernel), by decide +kernel⟩
  · refine ⟨by decide, fun d hd => ?_⟩
    obtain rfl : d = '0' := List.mem_singleton.mp hd
    rfl
  · decide
  · decide

/-- A sample opens no header of a loop, unless it is one for that word. -/
theorem plain_sample (h : kind ≠ .forLoop) : ∀ u ∈ [sample kind], Plain u := by
  intro u hu
  obtain rfl := List.mem_singleton.mp hu
  exact ⟨sample_formed kind, h⟩

/-- A token that was asked for could have been the next one. -/
theorem Begins.of_sample (h : Begins D (pre ++ [sample kind])) (hkind : kind ≠ .forLoop) :
    Begins D pre :=
  of_append (plain_sample hkind) h

/-! ## Complaints -/

/-- Behind the tokens `ts`, the complaint is about the first of the results. -/
inductive Complains (ts : List Token) (R : List (Except LexError Token)) : ParseError → Prop where
  | fault {f R'} (h : R = .error f :: R') : Complains ts R (.lexical f)
  | token {cause s} (hs : Stream R s) (h : cause.found? = some s.lookahead) :
      Complains ts R (.grammar ⟨cause, s.lookahead.line, s.lookahead.span⟩)
  | update {s line} (hs : Stream R s) (h : OpensLoop ts) :
      Complains ts R (.grammar ⟨.updateNotAssignment, line, s.lookahead.span⟩)

/-- Behind `pre`, the complaint is about one of the results, and the tokens before it begin a phrase. -/
def Stops (D : List Token → α → Prop) (pre : List Token) (R : List (Except LexError Token))
    (e : ParseError) : Prop :=
  ∃ ts R', R = ts.map .ok ++ R' ∧ Begins D (pre ++ ts) ∧ Complains (pre ++ ts) R' e

/-- The tokens among the results are formed. -/
def AllRead (R : List (Except LexError Token)) : Prop :=
  ∀ t, .ok t ∈ R → t.Formed

/-- Tokens behind others are formed if all are. -/
theorem AllRead.of_append (h : AllRead (R' ++ R)) : AllRead R :=
  fun t ht => h t (List.mem_append_right _ ht)

/-- A reader that stops behind some more tokens stops. -/
theorem Stops.append (h : Stops D (pre ++ ts) R e) : Stops D pre (ts.map .ok ++ R) e := by
  obtain ⟨us, R', rfl, hbegins, he⟩ := h
  rw [List.append_assoc] at hbegins he
  exact ⟨ts ++ us, R', by simp, hbegins, he⟩

/-- More tokens in front do not change what a complaint is about. -/
theorem Complains.within (h : Complains ts R e) : Complains (pre ++ ts) R e := by
  cases h with
  | fault h => exact .fault h
  | token hs h => exact .token hs h
  | update hs h =>
    obtain ⟨t, ht, hloop⟩ := h
    exact .update hs ⟨t, List.mem_append_right _ ht, hloop⟩

/-- Behind the tokens `pre` of a phrase of `D`, with a next token of which `P` holds, the reader either
succeeds or stops. Eight times the number of tokens must be less than `m`. -/
structure Halts (D : List Token → α → Prop) (pre : List Token) (m : Nat) (P : Token → Prop)
    (x : Reader β) : Prop where
  begins : Begins D pre
  stops : ∀ {R s e}, AllRead R → 8 * (pre.length + R.length) < m → Stream R s → P s.lookahead →
    x s = .error e → Stops D pre R e

namespace Halts

variable {x : Reader β} {f : β → Reader γ}

/-- Knowing more of the next token is no harm. -/
theorem imp (h : Halts D pre m Q x) (hPQ : ∀ t, P t → Q t) : Halts D pre m P x :=
  ⟨h.begins, fun hR hm hs hP => h.stops hR hm hs (hPQ _ hP)⟩

/-- What needs to know nothing of the next token may be used where something is known. -/
theorem weaken (h : Halts D pre m Unknown x) : Halts D pre m P x :=
  h.imp fun _ _ => trivial

/-- Fewer steps are a stronger condition on the tokens. -/
theorem mono {m' : Nat} (h : Halts D pre m' P x) (hm : m ≤ m') : Halts D pre m P x :=
  ⟨h.begins, fun hR hlt => h.stops hR (Nat.lt_of_lt_of_le hlt hm)⟩

/-- A next token that cannot be is no case to look at. -/
theorem of_impossible (h : Begins D pre) (hP : ∀ t, ¬ P t) : Halts D pre m P x :=
  ⟨h, fun _ _ _ hnext => (hP _ hnext).elim⟩

/-- What reads nothing never fails. -/
theorem pure (h : Begins D pre) (b : β) : Halts D pre m P (Pure.pure b : Reader β) :=
  ⟨h, fun _ _ _ _ he => nomatch he⟩

/-- A complaint about the next token stops where the reader stands. -/
theorem reject {cause : Token → SyntaxError.Cause} (h : Begins D pre)
    (hcause : ∀ t, (cause t).found? = some t) : Halts D pre m P (Reader.reject cause : Reader β) := by
  refine ⟨h, ?_⟩
  intro R s e _ _ hs _ he
  cases he
  refine ⟨[], R, rfl, ?_, .token hs (hcause _)⟩
  rwa [List.append_nil]

/-- Nothing is read behind a complaint. -/
theorem reject_bind {cause : Token → SyntaxError.Cause} (h : Begins D pre)
    (hcause : ∀ t, (cause t).found? = some t) :
    Halts D pre m P ((Reader.reject cause : Reader β) >>= f) :=
  ⟨h, fun hR hm hs hP he => (reject h hcause).stops hR hm hs hP he⟩

/-- Without steps there is no token left for the phrase. -/
theorem spent (h : Begins D pre) (hm : m ≤ 8 * pre.length) :
    Halts D pre m P (Reader.spent : Reader β) :=
  ⟨h, fun _ hlt => by omega⟩

/-- A look at the next token, which is known from then on. -/
theorem peek {f : Token → Reader β} (h : Begins D pre)
    (hf : ∀ t, P t → Halts D pre m (· = t) (f t)) : Halts D pre m P (Reader.peek >>= f) :=
  ⟨h, fun {_ s _} hR hm hs hP he => (hf s.lookahead hP).stops hR hm hs rfl he⟩

/-- A check of the kind, whose outcome is known from then on. -/
theorem check {f : Bool → Reader β} (hyes : Halts D pre m (fun t => P t ∧ t.kind = kind) (f true))
    (hno : Halts D pre m (fun t => P t ∧ t.kind ≠ kind) (f false)) :
    Halts D pre m P (Reader.check kind >>= f) := by
  refine ⟨hno.begins, ?_⟩
  intro R s e hR hm hs hP he
  replace he : f (s.lookahead.kind == kind) s = .error e := he
  by_cases hkind : s.lookahead.kind = kind
  · rw [beq_iff_eq.mpr hkind] at he
    exact hyes.stops hR hm hs ⟨hP, hkind⟩ he
  · rw [beq_eq_false_iff_ne.mpr hkind] at he
    exact hno.stops hR hm hs ⟨hP, hkind⟩ he

/-- A token that is taken stands behind the others from then on, and it is formed. -/
theorem advance {f : Token → Reader β} (h : Begins D pre) (hP : ∀ t, P t → t.kind ≠ .eof)
    (hf : ∀ t, P t → t.Formed → Halts D (pre ++ [t]) m Unknown (f t)) :
    Halts D pre m P (Reader.advance >>= f) := by
  refine ⟨h, ?_⟩
  intro R s e hR hm hs hnext he
  have hne := hP _ hnext
  obtain he | ⟨t, s', ht, he⟩ := bind_eq_error he
  · rw [Reader.advance] at he
    split at he
    · cases he
    · next fault hrest =>
      cases he
      cases R with
      | nil => cases hs; exact absurd rfl hne
      | cons r R' =>
        cases r with
        | error f => cases hs
        | ok t =>
          cases hs
          have hbegins := (hf t hnext (hR t List.mem_cons_self)).begins
          cases R' with
          | nil => cases hrest
          | cons r R' =>
            cases r with
            | ok u => cases hrest
            | error f => cases hrest; exact ⟨[t], _, rfl, hbegins, .fault rfl⟩
  · obtain ⟨rfl, R', rfl, hs'⟩ := eq_cons_of_advance hs ht hne
    have hstops := (hf _ hnext (hR _ List.mem_cons_self)).stops
      (fun t ht => hR t (List.mem_cons_of_mem _ ht)) (by simp at hm ⊢; omega) hs' trivial he
    exact hstops.append

/-- A token that has to be there. A sample of its kind shows that what was taken can still become a phrase.
-/
theorem expect {f : Token → Reader β} (hkind : kind ≠ .eof ∧ kind ≠ .forLoop)
    (hf : ∀ t, t.kind = kind → t.Formed → Halts D (pre ++ [t]) m Unknown (f t)) :
    Halts D pre m P (Reader.expect kind >>= f) := by
  have hbegins : Begins D pre := (hf (sample kind) rfl (sample_formed kind)).begins.of_sample hkind.2
  rw [Reader.expect, bind_assoc]
  refine check (advance hbegins (fun t ht => ht.2 ▸ hkind.1) fun t ht => hf t ht.2) ?_
  exact reject_bind hbegins fun _ => rfl

/-- A token that may be there. -/
theorem accept {f : Bool → Reader β} (heof : kind ≠ .eof)
    (hyes : ∀ t, P t → t.kind = kind → t.Formed → Halts D (pre ++ [t]) m Unknown (f true))
    (hno : Halts D pre m (fun t => P t ∧ t.kind ≠ kind) (f false)) :
    Halts D pre m P (Reader.accept kind >>= f) := by
  rw [Reader.accept, bind_assoc]
  refine check (bind_assoc (m := Reader) _ _ _ ▸ advance hno.begins ?_ ?_) hno
  · exact fun t ht => ht.2 ▸ heof
  · exact fun t ht => hyes t ht.1 ht.2

/-- A reader with which another one ends. -/
theorem last {m' : Nat} (hx : Halts E [] m' P x) (hm : m ≤ m' + 8 * pre.length)
    (hpre : Endless pre) (hE : ∀ ts b, E ts b → Begins D (pre ++ ts)) : Halts D pre m P x := by
  refine ⟨hx.begins.before hE, ?_⟩
  intro R s e hR hlt hs hP he
  obtain ⟨ts, R', rfl, hbegins, he⟩ := hx.stops hR (by simp; omega) hs hP he
  exact ⟨ts, R', rfl, hbegins.within hE hpre, he.within⟩

/-- A reader inside another one. What it takes is a phrase of `E`, and `Q` holds of the token behind. -/
theorem bind_next {m' : Nat} (hx : Halts E [] m' P x) (hm : m ≤ m' + 8 * pre.length)
    (hreads : ∀ {R s b s'}, Stream R s → P s.lookahead → x s = .ok (b, s') →
      ∃ ts, Took R ts s' ∧ E ts b ∧ Q s'.lookahead)
    (hf : ∀ ts b, E ts b → Halts D (pre ++ ts) m Q (f b)) : Halts D pre m P (x >>= f) := by
  have hE : ∀ ts b, E ts b → Begins D (pre ++ ts) := fun ts b h => (hf ts b h).begins
  have hpre := hx.begins.before hE
  refine ⟨hpre, ?_⟩
  intro R s e hR hlt hs hP he
  obtain he | ⟨b, s', hb, he⟩ := bind_eq_error he
  · exact (last hx hm hpre.endless hE).stops hR hlt hs hP he
  · obtain ⟨ts, ⟨R', rfl, hs'⟩, hb, hnext⟩ := hreads hs hP hb
    have hlen : 8 * ((pre ++ ts).length + R'.length) < m := by simp at hlt ⊢; omega
    exact ((hf ts b hb).stops (AllRead.of_append hR) hlen hs' hnext he).append

/-- A reader inside another one. If it stops then its own beginning, with what was taken before it, begins
the larger phrase; if it succeeds then the rest goes on behind its phrase. -/
theorem bind {m' : Nat} (hx : Halts E [] m' Unknown x) (hm : m ≤ m' + 8 * pre.length)
    (hreads : Reads E x) (hf : ∀ ts b, E ts b → Halts D (pre ++ ts) m Unknown (f b)) :
    Halts D pre m P (x >>= f) := by
  refine (bind_next hx hm ?_ hf).weaken
  intro R s b s' hs _ hb
  obtain ⟨ts, htook, hb⟩ := hreads hs hb
  exact ⟨ts, htook, hb, trivial⟩

end Halts

end Grammar

end ParLang
