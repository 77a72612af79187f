import Mathlib.Data.List.Basic
import ParLang.Proofs.Grammar.Lookahead
import ParLang.Proofs.Grammar.Stops
import ParLang.Proofs.Program.Complaints

/-!
# Where a source is refused

Tokens are pulled as they are needed, so a source with a fault among its characters may be refused before
the fault is reached. `parse_follows_tokens` says that this makes no other difference: the complaint is
about the first fault or stands before it. Where there is no fault, `refused_at_first_impossible_token`
says which token the complaint is about: what stands before it is the beginning of a program, and with it
no program goes on.
-/

namespace ParLang

open Reader TokenStream Grammar

variable {source : String} {e : ParseError} {fault : LexError} {t : Token} {ts : List Token}
  {R : List (Except LexError Token)}

/-! ## Scans -/

/-- The tokens of a scan are formed. -/
theorem allRead_scan (source : String) : AllRead (scan source) :=
  fun _ h => Cursor.formed_of_mem_results h

/-- A scan has one end token at most, as its last result. -/
theorem closedByEof_scan (source : String) : ClosedByEof (scan source) :=
  fun _ _ _ hR ht => Cursor.eq_nil_of_eof ⟨_, hR.symm⟩ ht

/-- Results without a fault are tokens. -/
theorem eq_map_of_firstFault (h : firstFault R = .ok ts) : R = ts.map .ok := by
  induction R generalizing ts with
  | nil => cases h; rfl
  | cons r R ih =>
    cases r with
    | error e => cases h
    | ok t =>
      obtain ⟨us, hus, rfl⟩ := Cursor.firstFault_cons h
      rw [List.map_cons, ih hus]

/-- The first fault behind tokens is the first. -/
theorem firstFault_append_error : firstFault (ts.map .ok ++ .error fault :: R) = .error fault := by
  induction ts with
  | nil => rfl
  | cons t ts ih => rw [List.map_cons, List.cons_append, firstFault, ih]; rfl

/-- A token ends before the faults behind it start. -/
theorem stop_le_of_suffix (h : .ok t :: R <:+ scan source) (hfault : .error fault ∈ R) :
    t.span.stop ≤ fault.span.start := by
  obtain ⟨before, c₀, c', n, -, hnext, hR⟩ := Cursor.exists_next_of_suffix h
  obtain ⟨gap, c₁, hreads⟩ := Cursor.reads_of_next hnext
  obtain ⟨mid, c₂, c₃, hmid, hnext'⟩ := Cursor.exists_next_of_mem_results (hR hfault)
  obtain ⟨gap', c₄, text, hgap, -, hspan, -⟩ := Cursor.fault_of_next hnext'
  rw [hreads.stop, hspan, (hmid.trans hgap).offset_eq]
  exact Nat.le_add_right _ _

/-! ## Lazy reading -/

/-- A complaint about a source is about its first result that could not follow the ones before it. -/
theorem stops_of_parse (h : parse source = .error e) : Stops Statements [] (scan source) e :=
  stops_of_parseResults (allRead_scan source) (closedByEof_scan source) h

/-- The complaint about a source with a fault is about the first fault or stands before it. -/
theorem eq_or_before_of_stops (hfault : firstFault (scan source) = .error fault)
    (h : Stops Statements [] (scan source) e) :
    e = .lexical fault ∨ ∃ e', e = .grammar e' ∧ e'.span.stop ≤ fault.span.start := by
  obtain ⟨ts, R, hR, -, hcomplains⟩ := h
  have hmem : .error fault ∈ R := by
    have hmem := mem_of_firstFault hfault
    rw [hR] at hmem
    rcases List.mem_append.mp hmem with hmem | hmem
    · obtain ⟨t, -, ht⟩ := List.mem_map.mp hmem
      cases ht
    · exact hmem
  have hbefore : ∀ {s}, Stream R s → s.lookahead.span.stop ≤ fault.span.start := by
    intro s hs
    cases R with
    | nil => cases hmem
    | cons r R =>
      cases r with
      | error f => cases hs
      | ok t =>
        cases hs
        have hbehind : .error fault ∈ R := by simpa using hmem
        exact stop_le_of_suffix ⟨_, hR.symm⟩ hbehind
  cases hcomplains with
  | fault h =>
    rw [hR, h, firstFault_append_error] at hfault
    exact .inl (congrArg _ (Except.error.inj hfault))
  | token hs h => exact .inr ⟨_, rfl, hbefore hs⟩
  | update hs h => exact .inr ⟨_, rfl, hbefore hs⟩

/-- **Reading tokens as they are needed gives what reading them all at first gives.** Without a fault the
source is read as its tokens are. With a fault it is refused for the first fault, or for what stands
before it. No number is refused in either case. -/
theorem parse_follows_tokens (source : String) :
    (∀ ts, tokens source = .ok ts → parse source = parseResults (ts.map .ok) ∧
      ∀ fault, parse source ≠ .error (.lexical fault)) ∧
    (∀ fault, tokens source = .error fault → parse source = .error (.lexical fault) ∨
      ∃ e, parse source = .error (.grammar e) ∧ e.span.stop ≤ fault.span.start) ∧
    ∀ e text, parse source = .error (.grammar e) → e.cause ≠ .invalidNumber text := by
  refine ⟨fun ts hts => ?_, fun fault hfault => ?_, fun e text h hcause => ?_⟩
  · have hscan : scan source = ts.map .ok := eq_map_of_firstFault hts
    refine ⟨by rw [parse, hscan], fun fault h => ?_⟩
    obtain ⟨us, R, hR, -, hcomplains⟩ := stops_of_parse h
    cases hcomplains with
    | fault hf =>
      rw [hscan, hf] at hR
      have hmem : .error fault ∈ ts.map (Except.ok (ε := LexError)) := hR ▸ by simp
      obtain ⟨t, -, ht⟩ := List.mem_map.mp hmem
      cases ht
  · cases h : parse source with
    | ok p =>
      obtain ⟨ts, last, hscan, -⟩ := scan_of_parse h
      have hmem := mem_of_firstFault hfault
      rw [hscan] at hmem
      obtain ⟨t, -, ht⟩ := List.mem_map.mp hmem
      cases ht
    | error e =>
      rcases eq_or_before_of_stops hfault (stops_of_parse h) with rfl | ⟨e', rfl, hstop⟩
      · exact .inl rfl
      · exact .inr ⟨e', rfl, hstop⟩
  · obtain ⟨ts, R, -, -, hcomplains⟩ := stops_of_parse h
    cases hcomplains with
    | token hs hfound =>
      dsimp only at hcause
      rw [hcause] at hfound
      cases hfound
    | update hs h => cases hcause

/-- A parenthesis that nothing opens, and a string without an end on the line behind it. -/
def strayBeforeQuote : String :=
  "x = )\n\""

/-- A stray parenthesis is complained about in front of a quote that is never closed, though the lexer knows
of no other fault than that one. -/
theorem parse_follows_tokens_strayBeforeQuote :
    tokens strayBeforeQuote = .error ⟨.unterminatedString, 2, ⟨6, 7⟩⟩ ∧
    (∃ e, parse strayBeforeQuote = .error (.grammar e) ∧ e.span.stop ≤ 6 ∧
      ∀ text, e.cause ≠ .invalidNumber text) ∧
    ∃ ts, tokens "x = 1.5" = .ok ts ∧ parse "x = 1.5" = parseResults (ts.map .ok) := by
  have hfault : tokens strayBeforeQuote = .error ⟨.unterminatedString, 2, ⟨6, 7⟩⟩ := by decide +kernel
  have hparse : parse strayBeforeQuote = .error (.grammar
      ⟨.expectedExpression ⟨.rightParen, ")", 1, ⟨4, 5⟩⟩, 1, ⟨4, 5⟩⟩) :=
    eq_error_of_match (by decide +kernel)
  obtain ⟨-, hrefused, hnumbers⟩ := parse_follows_tokens strayBeforeQuote
  refine ⟨hfault, ?_, ?_⟩
  · rcases hrefused _ hfault with h | ⟨e, he, hstop⟩
    · cases h.symm.trans hparse
    · exact ⟨e, he, hstop, fun text => hnumbers e text he⟩
  · have htokens : tokens "x = 1.5" = .ok
        [⟨.identifier, "x", 1, ⟨0, 1⟩⟩, ⟨.assign, "=", 1, ⟨2, 3⟩⟩, ⟨.number, "1", 1, ⟨4, 5⟩⟩,
          ⟨.dot, ".", 1, ⟨5, 6⟩⟩, ⟨.number, "5", 1, ⟨6, 7⟩⟩, ⟨.eof, "", 1, ⟨7, 7⟩⟩] := by decide +kernel
    exact ⟨_, htokens, ((parse_follows_tokens "x = 1.5").1 _ htokens).1⟩

/-! ## The first impossible token -/

/-- The tokens of a source are told apart by where they start. -/
theorem eq_of_start_eq {before after before' after' : List Token} {t t' : Token}
    (hpairs : (before ++ t :: after).Pairwise fun t u => t.span.start < u.span.start)
    (heq : before ++ t :: after = before' ++ t' :: after') (hstart : t.span.start = t'.span.start) :
    before = before' ∧ t = t' ∧ after = after' := by
  obtain ⟨-, hafter, hbefore⟩ := List.pairwise_append.mp hpairs
  have hne : t'.span.start ∉ before.map (·.span.start) := by
    intro h
    obtain ⟨u, hu, hut⟩ := List.mem_map.mp h
    have hlt := hbefore u hu t List.mem_cons_self
    omega
  have hne' : t'.span.start ∉ after.map (·.span.start) := by
    intro h
    obtain ⟨u, hu, hut⟩ := List.mem_map.mp h
    have hlt := (List.pairwise_cons.mp hafter).1 u hu
    omega
  have hmap := congrArg (List.map (·.span.start)) heq
  simp only [List.map_append, List.map_cons] at hmap
  obtain ⟨hfront, -, -⟩ := (List.append_cons_inj_of_notMem hne hne').mp hmap
  have hlength : before.length = before'.length := by simpa using congrArg List.length hfront
  obtain ⟨rfl, hrest⟩ := List.append_inj heq hlength
  exact ⟨rfl, (List.cons.inj hrest).1, (List.cons.inj hrest).2⟩

/-- The token that a complaint about the tokens of a source is about, and what stands before it. -/
theorem exists_token_of_refused {e : SyntaxError} (hts : tokens source = .ok ts)
    (h : parseResults (ts.map .ok) = .error (.grammar e)) :
    ∃ before t after, ts = before ++ t :: after ∧ e.span = t.span ∧
      (OpensLoop before ∨ e.line = t.line ∧ e.cause.found? = some t ∧
        ∃ more p, (∀ u ∈ more, Plain u) ∧ Derives (before ++ more) p) := by
  have hscan : scan source = ts.map .ok := eq_map_of_firstFault hts
  rw [← hscan] at h
  obtain ⟨before, R, hR, hbegins, hcomplains⟩ := stops_of_parse h
  rw [hscan] at hR
  obtain ⟨before', rest, rfl, hbefore, rfl⟩ := List.map_eq_append_iff.mp hR
  obtain rfl : before' = before := List.map_inj_right (fun _ _ => Except.ok.inj) |>.mp hbefore
  rw [List.nil_append] at hbegins hcomplains
  cases rest with
  | nil =>
    -- The end token is never taken, so something is left.
    have hlaid : Cursor.Laid (.ofString source) (before' ++ []) :=
      Cursor.laid_of_results hts (Nat.lt_succ_self _)
    obtain ⟨us, last, heq, -, hlast, -⟩ := hlaid.exists_eof
    rw [List.append_nil] at heq
    exact absurd hlast (hbegins.endless last (heq ▸ by simp))
  | cons t after =>
    refine ⟨before', t, after, rfl, ?_⟩
    cases hcomplains with
    | token hs hfound =>
      cases hs
      refine ⟨rfl, hbegins.completed.imp_right ?_⟩
      rintro ⟨more, ss, hmore, hderives⟩
      exact ⟨rfl, hfound, more, ⟨ss⟩, hmore, hderives⟩
    | update hs hloop =>
      cases hs
      exact ⟨rfl, .inl hloop⟩

/-- **A source is refused at the first token with which no program goes on.** A complaint about the tokens
of a source is about one of them. If no header of a loop opens before it, what stands before it can be
completed to a program, by tokens that a source can have, and nothing that starts with it and what stands
before it is a program. -/
theorem refused_at_first_impossible_token {e : SyntaxError} (hts : tokens source = .ok ts)
    (h : parseResults (ts.map .ok) = .error (.grammar e)) :
    (∃ before t after, ts = before ++ t :: after ∧ e.span = t.span) ∧
    ∀ before t after, ts = before ++ t :: after → e.span = t.span →
      (∀ u ∈ before, u.kind ≠ .forLoop) →
        e.line = t.line ∧
        (∃ more p, (∀ u ∈ more, u.Formed) ∧
          parseResults ((before ++ more ++ [endToken]).map .ok) = .ok p) ∧
        ∀ behind p, parseResults ((before ++ t :: behind).map .ok) ≠ .ok p := by
  obtain ⟨before, t, after, rfl, hspan, hbegins⟩ := exists_token_of_refused hts h
  have hlaid : Cursor.Laid (.ofString source) (before ++ t :: after) :=
    Cursor.laid_of_results hts (Nat.lt_succ_self _)
  have hpairs := hlaid.pairwise_start
  refine ⟨⟨before, t, after, rfl, hspan⟩, ?_⟩
  intro before' t' after' heq hspan' hloop
  obtain ⟨rfl, rfl, rfl⟩ :=
    eq_of_start_eq hpairs heq (congrArg Span.start (hspan.symm.trans hspan'))
  rcases hbegins with ⟨u, hu, hfor⟩ | ⟨hline, hfound, more, p, hmore, hderives⟩
  · exact absurd hfor (hloop u hu)
  · refine ⟨hline, ⟨more, p, fun u hu => (hmore u hu).formed, ?_⟩, ?_⟩
    · exact hderives.parse (List.forall_mem_singleton.mpr rfl)
    · intro behind p
      obtain ⟨-, hafter, hbefore⟩ := List.pairwise_append.mp hpairs
      have hne : t ∉ before := fun hmem =>
        absurd (hbefore t hmem t List.mem_cons_self) (Nat.lt_irrefl _)
      have hne' : t ∉ after := fun hmem =>
        absurd ((List.pairwise_cons.mp hafter).1 t hmem) (Nat.lt_irrefl _)
      exact parseResults_ne_ok_of_refused hne hne' h hfound

/-- An index that is not closed, in an array that is an argument of a call. -/
def openIndex : String :=
  "f([a[1 b"

/-- The tokens before the refused one begin a program, with brackets and a parenthesis still open. -/
theorem refused_at_first_impossible_token_openIndex :
    ∃ before, before.map Token.lexeme = ["f", "(", "[", "a", "[", "1"] ∧
      parse openIndex = .error (.grammar
        ⟨.expected .rightBracket ⟨.identifier, "b", 1, ⟨7, 8⟩⟩, 1, ⟨7, 8⟩⟩) ∧
      (∃ more p, (∀ u ∈ more, u.Formed) ∧
        parseResults ((before ++ more ++ [endToken]).map .ok) = .ok p) ∧
      ∀ behind p,
        parseResults ((before ++ (⟨.identifier, "b", 1, ⟨7, 8⟩⟩ : Token) :: behind).map .ok) ≠ .ok p := by
  have htokens : tokens openIndex = .ok
      ([⟨.identifier, "f", 1, ⟨0, 1⟩⟩, ⟨.leftParen, "(", 1, ⟨1, 2⟩⟩, ⟨.leftBracket, "[", 1, ⟨2, 3⟩⟩,
        ⟨.identifier, "a", 1, ⟨3, 4⟩⟩, ⟨.leftBracket, "[", 1, ⟨4, 5⟩⟩, ⟨.number, "1", 1, ⟨5, 6⟩⟩] ++
        ⟨.identifier, "b", 1, ⟨7, 8⟩⟩ :: [⟨.eof, "", 1, ⟨8, 8⟩⟩]) := by decide +kernel
  have hparse : parse openIndex = .error (.grammar
      ⟨.expected .rightBracket ⟨.identifier, "b", 1, ⟨7, 8⟩⟩, 1, ⟨7, 8⟩⟩) :=
    eq_error_of_match (by decide +kernel)
  have hrefused := hparse
  rw [parse, eq_map_of_firstFault htokens] at hrefused
  obtain ⟨-, himpossible⟩ := refused_at_first_impossible_token htokens hrefused
  obtain ⟨-, hcompleted, hnone⟩ := himpossible _ _ _ rfl rfl (by decide)
  exact ⟨_, rfl, hparse, hcompleted, hnone⟩

end ParLang
