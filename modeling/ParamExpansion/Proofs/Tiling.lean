import ParamExpansion.Proofs.Locations
import ParamExpansion.Proofs.Parsing
import ParamExpansion.Proofs.Runs

/-!
# Tokens cover the text without gaps

The tokens of a text lie side by side, and each one is what its characters spell. No token is empty,
so the lexer gives no more tokens than there are characters, and once it has none to give it stays
where it is.

The parameters of the template of a text lie where the dollar signs among its tokens start. So each
one lies in the text in front of a dollar sign, and a text whose first token is one has a parameter
at its beginning.
-/

namespace ParamExpansion

open Token (Kind)

namespace Token

/-- Whether some characters spell a token of the kind. -/
def Kind.Spells (cs : List Char) : Kind → Prop
  | .text value => value = String.ofList (unescape cs)
  | .name value => value = String.ofList cs
  | .index n => n = Index.read cs
  | .mark m => cs = [m.char]
  | .caseMark k => cs = [k.char]

/-- The characters of a text from where the token starts to where it stops. -/
def slice (t : Token) (text : String) : List Char :=
  (text.toList.take t.stop.index).drop t.start.index

/-- The characters between two places are those that a walk passes on the way. -/
theorem slice_eq {t : Token} {text : String} {before slice after : List Char}
    (htext : text.toList = before ++ slice ++ after) (hstart : t.start = Position.start.steps before)
    (hstop : t.stop = Position.start.steps (before ++ slice)) : t.slice text = slice := by
  have hbegin : t.start.index = before.length := by
    rw [hstart, Position.index_start_steps]
  have hend : t.stop.index = (before ++ slice).length := by
    rw [hstop, Position.index_start_steps]
  rw [Token.slice, hbegin, hend, htext, List.take_left, List.drop_left]

/-- Whether some tokens, none of them empty, lie side by side from one position to another. -/
def Tile : Position → List Token → Position → Prop
  | p, [], q => p = q
  | p, t :: ts, q => t.start = p ∧ t.start.index < t.stop.index ∧ Tile t.stop ts q

/-- Whether a token stands in a text, behind some characters and before others. -/
def StandsIn (t : Token) (text : String) : Prop :=
  ∃ before slice after, text.toList = before ++ slice ++ after ∧ slice ≠ [] ∧
    t.start = Position.start.steps before ∧ t.stop = Position.start.steps (before ++ slice) ∧
    t.kind.Spells slice

theorem Tile.length_le {p q : Position} {ts : List Token} (h : Tile p ts q) :
    p.index + ts.length ≤ q.index := by
  induction ts generalizing p with
  | nil => exact Nat.le_of_eq (congrArg Position.index h)
  | cons t ts ih =>
    obtain ⟨rfl, hlt, hts⟩ := h
    have := ih hts
    rw [List.length_cons]
    omega

namespace StandsIn

variable {t : Token} {text : String}

theorem index_lt (h : t.StandsIn text) :
    t.start.index < t.stop.index ∧ t.stop.index ≤ text.length := by
  obtain ⟨before, slice, after, htext, hne, hstart, hstop, -⟩ := h
  have hpos := List.length_pos_iff.2 hne
  have hlength : text.length = before.length + slice.length + after.length := by
    rw [← String.length_toList, htext, List.length_append, List.length_append]
  simp only [hstart, hstop, Position.index_start_steps, List.length_append, hlength]
  omega

theorem liesIn (h : t.StandsIn text) : t.start.LiesIn text ∧ t.stop.LiesIn text := by
  obtain ⟨before, slice, after, htext, -, hstart, hstop, -⟩ := h
  constructor
  · rw [List.append_assoc] at htext
    exact hstart ▸ Position.start_steps_liesIn htext
  · exact hstop ▸ Position.start_steps_liesIn htext

/-- A token is what the characters spell that it covers. -/
theorem spells_slice (h : t.StandsIn text) : t.kind.Spells (t.slice text) := by
  obtain ⟨before, slice, after, htext, -, hstart, hstop, hs⟩ := h
  rwa [slice_eq htext hstart hstop]

end StandsIn

end Token

namespace Lexer

open Token

/-! ## Tokens and their characters -/

theorem Reads.spells {l : Lexer} {x : Lexeme} (h : Reads l x) : x.kind.Spells x.slice := by
  cases h <;> rfl

theorem Moves.slice_ne_nil {l l' : Lexer} {x : Lexeme} {t : Token} (hx : Moves l x t l')
    (h : l.next? = some (t, l')) : x.slice ≠ [] := by
  have hlt := rest_length_lt_of_next? h
  intro hnil
  rw [hx.rest, hnil] at hlt
  exact Nat.lt_irrefl _ hlt

/-- A run reads tokens that lie side by side. -/
theorem Runs.tile {l l' : Lexer} {ts : List Token} (h : Runs l ts l') :
    Tile l.cursor.position ts l'.cursor.position := by
  induction h with
  | done l => rfl
  | step hs _ ih =>
    obtain ⟨x, hx⟩ := moves_of_next? hs
    have hpos := List.length_pos_iff.2 (hx.slice_ne_nil hs)
    refine ⟨hx.start, ?_, hx.stop ▸ ih⟩
    rw [hx.start, hx.stop, hx.position, Position.index_steps]
    omega

/-- Behind the beginning of a text, a run reads tokens that stand in the text. -/
theorem Runs.standsIn {l l' : Lexer} {ts : List Token} (h : Runs l ts l') {text : String}
    {before : List Char} (hr : text.toList = before ++ l.cursor.rest)
    (hp : l.cursor.position = Position.start.steps before) : ∀ t ∈ ts, t.StandsIn text := by
  -- The induction is on the run, and `before` grows by the characters of each token.
  induction h generalizing before with
  | done l => simp
  | @step l l' l'' t ts hs _ ih =>
    obtain ⟨x, hx⟩ := moves_of_next? hs
    have hr' : text.toList = before ++ x.slice ++ l'.cursor.rest := by
      rw [hr, hx.rest, List.append_assoc]
    have hp' : l'.cursor.position = Position.start.steps (before ++ x.slice) := by
      rw [hx.position, hp, Position.steps_append]
    have ht : t.StandsIn text :=
      ⟨before, x.slice, l'.cursor.rest, hr', hx.slice_ne_nil hs, hx.start.trans hp,
        hx.stop.trans hp', hx.kind ▸ hx.reads.spells⟩
    exact List.forall_mem_cons.2 ⟨ht, ih hr' hp'⟩

/-! ## Requests -/

/-- Asks for a token. A lexer that has none to give stays where it is. -/
def request (l : Lexer) : Option Token × Lexer :=
  match l.next? with
  | some (t, l') => (some t, l')
  | none => (none, l)

/-- The lexer after so many requests. -/
def after (l : Lexer) : Nat → Lexer
  | 0 => l
  | n + 1 => l.request.2.after n

/-- The requests are answered with one token after the other, and with none once these are given. -/
theorem request_after (l : Lexer) (n : Nat) :
    (l.after n).request.1 = l.tokens[n]? ∧ (l.tokens.length ≤ n → l.after n = l.exhausted) := by
  have hstay {m : Lexer} (h : m.next? = none) : m.request = (none, m) := by rw [request, h]
  induction n generalizing l with
  | zero =>
    cases h : l.next? with
    | none => simp [after, hstay h, tokens_of_none h, exhausted_of_none h]
    | some p => simp [after, request, h, tokens_of_some h]
  | succ n ih =>
    cases h : l.next? with
    -- The request has changed nothing, so the others do not either.
    | none =>
      have hl := ih l
      rw [tokens_of_none h] at hl ⊢
      simpa [after, hstay h] using hl
    | some p =>
      have hl := ih p.2
      rw [tokens_of_some h, exhausted_of_some h]
      simpa [after, request, h] using hl

end Lexer

/-- The tokens that are read off a text stand in it. -/
theorem standsIn_of_mem_tokenize {text : String} {t : Token} (h : t ∈ tokenize text) :
    t.StandsIn text := by
  have hrest : text.toList = [] ++ (Lexer.ofString text).cursor.rest := rfl
  exact (Lexer.runs_exhausted (.ofString text)).1.standsIn hrest rfl t h

open Token Lexer in
/-- The tokens of a text lie side by side from its beginning to where the lexer stops. They lie at
true positions, and each one is what the characters spell that it covers. There are no more tokens
than characters, and when all have been given the lexer gives none and does not move any more. -/
theorem tokenize_tiles (text : String) :
    let last := (Lexer.ofString text).exhausted
    Tile .start (tokenize text) last.cursor.position ∧ last.cursor.position.LiesIn text ∧
      (∀ t ∈ tokenize text, t.start.LiesIn text ∧ t.stop.LiesIn text ∧
        t.kind.Spells (t.slice text)) ∧
      (tokenize text).length ≤ text.length ∧
      ∀ n, ((Lexer.ofString text).after n).request.1 = (tokenize text)[n]? ∧
        ((tokenize text).length ≤ n → (Lexer.ofString text).after n = last) := by
  intro last
  -- The run of the lexer to its end gives the tiling, and where the last token stops.
  obtain ⟨hr, -⟩ := runs_exhausted (Lexer.ofString text)
  have htile : Tile .start (tokenize text) last.cursor.position := hr.tile
  have hlast : last.cursor.position.LiesIn text := by
    obtain ⟨cs, hc, hp⟩ := hr.covers
    have hp : last.cursor.position = Position.start.steps cs := hp
    exact hp ▸ Position.start_steps_liesIn hc
  refine ⟨htile, hlast, ?_, ?_, request_after _⟩
  · intro t ht
    have hstands := standsIn_of_mem_tokenize ht
    exact ⟨hstands.liesIn.1, hstands.liesIn.2, hstands.spells_slice⟩
  · -- Each token covers a character at least.
    calc (tokenize text).length
        = Position.start.index + (tokenize text).length := (Nat.zero_add _).symm
      _ ≤ last.cursor.position.index := htile.length_le
      _ ≤ text.length := hlast.index_le

/-! ## Parameters -/

namespace Template

open Token

variable {text : String} {t : Template} {p : Position}

/-- The parameters of a text lie where its dollar signs start. -/
theorem positions_of_ok (h : ofString text = .ok t) : t.positions = dollars (tokenize text) := by
  obtain ⟨ds, hk, hd, -⟩ := exists_derivations_of_ok h
  obtain ⟨u, hu, -, hp⟩ := ofSource_of_sentence hd hk
  rw [ofString_eq_ofSource_tokenize] at h
  obtain rfl : t = u := by simpa using h.symm.trans hu
  exact hp

theorem exists_token_of_mem_positions (h : ofString text = .ok t) (hp : p ∈ t.positions) :
    ∃ token ∈ tokenize text, token.kind = .mark .dollar ∧ token.start = p := by
  rw [positions_of_ok h] at hp
  obtain ⟨token, hmem, rfl⟩ := List.mem_map.1 hp
  obtain ⟨hmem, hdollar⟩ := List.mem_filter.1 hmem
  exact ⟨token, hmem, by simpa using hdollar, rfl⟩

/-- The parameters of a text lie in front of characters of the text. -/
theorem liesIn_of_mem_positions (h : ofString text = .ok t) (hp : p ∈ t.positions) :
    p.LiesIn text ∧ p.index < text.length := by
  obtain ⟨token, hmem, -, rfl⟩ := exists_token_of_mem_positions h hp
  have hstands := standsIn_of_mem_tokenize hmem
  exact ⟨hstands.liesIn.1, Nat.lt_of_lt_of_le hstands.index_lt.1 hstands.index_lt.2⟩

/-- The parameters of a text lie in front of its dollar signs. -/
theorem getElem?_of_mem_positions (h : ofString text = .ok t) (hp : p ∈ t.positions) :
    text.toList[p.index]? = some '$' := by
  obtain ⟨token, hmem, hdollar, rfl⟩ := exists_token_of_mem_positions h hp
  obtain ⟨before, slice, after, htext, -, hstart, -, hspells⟩ := standsIn_of_mem_tokenize hmem
  rw [hdollar] at hspells
  obtain rfl : slice = ['$'] := hspells
  have hindex : token.start.index = before.length := by
    rw [hstart, Position.index_start_steps]
  rw [htext, List.append_assoc, hindex, List.getElem?_append_right (Nat.le_refl _), Nat.sub_self]
  rfl

/-- A text whose first token is a dollar sign has a parameter at its beginning. -/
theorem head?_positions_of_ok (h : ofString text = .ok t)
    (hdollar : (kinds (tokenize text)).head? = some (.mark .dollar)) :
    t.positions.head? = some .start := by
  have htile := (Lexer.runs_exhausted (.ofString text)).1.tile
  change Tile .start (tokenize text) _ at htile
  -- The first token starts at the beginning of the text, and the first parameter lies at it.
  rw [positions_of_ok h]
  cases htokens : tokenize text with
  | nil => simp [htokens] at hdollar
  | cons token tokens =>
    rw [htokens] at htile hdollar
    have hkind : token.kind = .mark .dollar := by simpa using hdollar
    rw [dollars_cons, if_pos hkind]
    exact congrArg some htile.1

end Template

end ParamExpansion
