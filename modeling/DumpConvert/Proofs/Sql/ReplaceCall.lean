import DumpConvert.Proofs.Sql.ValueToken
import DumpConvert.Proofs.Text.Numeral
import DumpConvert.Proofs.Text.Replacing
import DumpConvert.Sql.Literal

/-!
# Calls of `replace`

A dump spells a string that holds control characters as calls of `replace` around a string
literal (`Layer.wrap`, `spelling`).  What stands between the parentheses of a call is
hidden from the scan of a list (`Nesting.avoids_deeper`), so a call is one token
(`isToken_call`) and the arguments of a call around it are found as they were written,
whatever their strings hold.

One layer is read as one replacement (`replaceCall?_wrap`).  Layer by layer, the string
that is read is the one that the replacements leave of the innermost string, the innermost
layer first (`exists_replaceCall?_spelling`).
-/

namespace DumpConvert.Sql

open Nesting

/-! ## Inside parentheses -/

namespace Nesting

def deeper (s : Nesting) : Nesting :=
  { s with depth := s.depth + 1 }

theorem deeper_ne_top (s : Nesting) : s.deeper ≠ top := by
  intro heq
  exact absurd (congrArg Nesting.depth heq) (Nat.succ_ne_zero s.depth)

theorem advance_deeper {s : Nesting} {c : Char} (h : ¬ (s = top ∧ c = ')')) :
    s.deeper.advance c = (s.advance c).deeper := by
  rcases s with ⟨_ | quote, depth, hknown⟩
  · by_cases hright : c = ')'
    · have hdepth : depth ≠ 0 := by
        rintro rfl
        exact h ⟨rfl, hright⟩
      have hback : depth - 1 + 1 = depth := by omega
      simp [deeper, advance, depthAfter, hright, hback]
    · by_cases hleft : c = '('
      · simp [deeper, advance, depthAfter, hleft]
      · simp [deeper, advance, depthAfter, hleft, hright]
  · simp [deeper, advance]

theorem after_deeper {s : Nesting} {t : Text} (h : Avoids ')' s t) :
    s.deeper.after t = (s.after t).deeper := by
  induction t generalizing s with
  | nil => rfl
  | cons c rest ih =>
      show (s.deeper.advance c).after rest = ((s.advance c).after rest).deeper
      rw [advance_deeper h.1, ih h.2]

/-- No mark counts before the parenthesis is closed. -/
theorem avoids_deeper {mark : Char} {s : Nesting} {t : Text} (h : Avoids ')' s t) :
    Avoids mark s.deeper t := by
  induction t generalizing s with
  | nil => trivial
  | cons c rest ih =>
      refine ⟨fun hstop => deeper_ne_top s hstop.1, ?_⟩
      rw [advance_deeper h.1]
      exact ih h.2

theorem advance_parentheses : top.advance '(' = top.deeper ∧ top.deeper.advance ')' = top := by
  decide

end Nesting

def call (name inner : Text) : Text :=
  name ++ '(' :: inner ++ [')']

theorem avoids_call {mark : Char} (hmark : mark ≠ '(') {name inner : Text}
    (hname : Avoids mark top name ∧ top.after name = top) (hinner : IsGroup inner) :
    Avoids mark top (call name inner) := by
  have hinside : Avoids mark top.deeper (inner ++ [')']) := by
    rw [avoids_append, after_deeper hinner.enclosed, hinner.balanced]
    exact ⟨avoids_deeper hinner.enclosed, fun hstop => deeper_ne_top top hstop.1, trivial⟩
  rw [call, List.append_assoc, avoids_append, hname.2]
  refine ⟨hname.1, fun hstop => hmark hstop.2.symm, ?_⟩
  rw [advance_parentheses.1]
  exact hinside

theorem after_call {name inner : Text} (hname : top.after name = top) (hinner : IsGroup inner) :
    top.after (call name inner) = top := by
  rw [call, List.append_assoc, after_append, hname]
  show (top.advance '(').after (inner ++ [')']) = top
  rw [advance_parentheses.1, after_append, after_deeper hinner.enclosed, hinner.balanced]
  exact advance_parentheses.2

theorem getLast?_call (name inner : Text) : (call name inner).getLast? = some ')' := by
  exact List.getLast?_concat

theorem trim_call {name : Text} (hname : Text.trim name = name) (inner : Text) :
    Text.trim (call name inner) = call name inner := by
  rw [Text.trim_eq_self_iff]
  refine ⟨fun c hc => ?_, fun c hc => ?_⟩
  · cases name with
    | nil =>
        rw [← Option.some.inj hc]
        decide
    | cons d rest => exact ((Text.trim_eq_self_iff (d :: rest)).mp hname).1 c hc
  · rw [getLast?_call] at hc
    rw [← Option.some.inj hc]
    decide

/-- A call is one token if its name is, whatever its parentheses close. -/
theorem isToken_call {name inner : Text} (hname : IsToken name) (hinner : IsGroup inner) :
    IsToken (call name inner) := by
  exact
    { enclosed := avoids_call (by decide) ⟨hname.enclosed, hname.balanced⟩ hinner
      balanced := after_call hname.balanced hinner
      uncut := avoids_call (by decide) ⟨hname.uncut, hname.balanced⟩ hinner
      trimmed := trim_call hname.trimmed inner }

namespace Literal

theorem arguments?_call (name inner : Text) : arguments? name (call name inner) = some inner := by
  have hwhole : call name inner = (name ++ ['(']) ++ (inner ++ [')']) := by
    simp [call]
  have hlength : (name ++ ['(']).length = name.length + 1 := by
    simp
  have hstart : Text.startsIgnoringCase (name ++ ['(']) (call name inner) = true := by
    rw [Text.startsIgnoringCase, hwhole, List.take_left]
    exact beq_self_eq_true _
  rw [arguments?, if_pos ⟨hstart, getLast?_call name inner⟩, hwhole, ← hlength, List.drop_left,
    List.dropLast_concat]

/-! ## Calls of `char` -/

def charCall (c : Char) : Text :=
  call "char".toList (Text.decimal c.toNat)

theorem isToken_decimal (n : Nat) : IsToken (Text.decimal n) := by
  have hne : ∀ c ∈ Text.decimal n, ∀ d : Char, d.isDigit = false → c ≠ d := by
    rintro c hc d hd rfl
    rw [Text.isDigit_of_mem_decimal hc] at hd
    cases hd
  have hplain : (Text.decimal n).all isPlain = true := by
    refine List.all_eq_true.mpr fun c hc => ?_
    simp [isPlain, isValueQuote, hne c hc]
  have hcomma : ',' ∉ Text.decimal n := fun hmem => hne _ hmem ',' (by decide) rfl
  have hsolid : ∀ c ∈ Text.decimal n, Text.isBlank c = false := fun c hc =>
    Text.isBlank_eq_false_of_isDigit (Text.isDigit_of_mem_decimal hc)
  refine isToken_of_isPlain hplain hcomma ((Text.trim_eq_self_iff _).mpr ⟨?_, ?_⟩)
  · exact fun c hc => hsolid c (List.mem_of_mem_head? hc)
  · exact fun c hc => hsolid c (List.mem_of_getLast? hc)

theorem isToken_charCall (c : Char) : IsToken (charCall c) := by
  have hname : IsToken "char".toList := isToken_of_isPlain rfl (by decide) rfl
  exact isToken_call hname (isToken_decimal c.toNat).toIsGroup

theorem charCall?_charCall (c : Char) : charCall? (charCall c) = some c := by
  have hcode : Text.uint32? (Text.trim (Text.decimal c.toNat)) = some c.toNat := by
    rw [(isToken_decimal c.toNat).trimmed]
    exact Text.uint32?_decimal c.val.toNat_lt
  have hvalid : c.toNat.isValidChar := c.valid
  simp only [charCall?, charCall, arguments?_call, hcode, if_pos hvalid, Char.ofNat_toNat]

/-! ## Layers -/

/-- One call of `replace` around a string: a marker, and the character that takes its place. -/
structure Layer where
  marker : Text
  char : Char
  marker_ne_nil : marker ≠ []

namespace Layer

def arguments (layer : Layer) (inner : Text) : List Text :=
  [inner, ofText layer.marker, charCall layer.char]

def wrap (layer : Layer) (inner : Text) : Text :=
  call "replace".toList (Text.joinWith [','] (layer.arguments inner))

inductive Turns : List Layer → Text → Text → Prop where
  | nil (t : Text) : Turns [] t t
  | cons {layer : Layer} {layers : List Layer} {t u v : Text}
      (hhere : Text.Replaces layer.marker [layer.char] t u) (hlater : Turns layers u v) :
      Turns (layer :: layers) t v

end Layer

/-- The text as a string literal with the layers around it, the innermost layer first. -/
def spelling (t : Text) (layers : List Layer) : Text :=
  layers.foldl (fun inner layer => layer.wrap inner) (ofText t)

theorem isToken_of_mem_arguments {inner : Text} (hinner : IsToken inner) (layer : Layer) :
    ∀ token ∈ layer.arguments inner, IsToken token := by
  intro token hmem
  rcases List.mem_cons.mp hmem with rfl | hmem
  · exact hinner
  · rcases List.mem_cons.mp hmem with rfl | hmem
    · exact isToken_enclose (by decide) layer.marker
    · rw [List.mem_singleton.mp hmem]
      exact isToken_charCall layer.char

theorem isToken_wrap {inner : Text} (hinner : IsToken inner) (layer : Layer) :
    IsToken (layer.wrap inner) := by
  have hname : IsToken "replace".toList := isToken_of_isPlain rfl (by decide) rfl
  have harguments : ∀ token ∈ layer.arguments inner, IsGroup token := fun token hmem =>
    (isToken_of_mem_arguments hinner layer token hmem).toIsGroup
  exact isToken_call hname (isGroup_joinWith (isGroup_of_isPlain rfl) harguments)

/-- The arguments of the call are found again, whatever their strings hold. -/
theorem splitValues_arguments {inner : Text} (hinner : IsToken inner) (layer : Layer) :
    splitValues (Text.joinWith [','] (layer.arguments inner)) = layer.arguments inner := by
  have hlast : (layer.arguments inner).getLast? ≠ some [] := by
    intro hnil
    exact List.cons_ne_nil _ _ (Option.some.inj hnil)
  exact splitValues_joinWith (List.forall_mem_nil _) (isToken_of_mem_arguments hinner layer) hlast

/-! ## Reading the layers -/

/-- The string that the first argument of a call stands for. -/
def innerText? (token : Text) : Option Text :=
  (text? token).or (replaceCall? token)

theorem innerText?_ofText (t : Text) : innerText? (ofText t) = some t := by
  rw [innerText?, text?_ofText, Option.some_or]

theorem text?_wrap (layer : Layer) (inner : Text) : text? (layer.wrap inner) = none := by
  cases hbody : body? (layer.wrap inner) with
  | none => rw [text?, hbody, Option.map_none]
  | some body =>
      have hlast : (layer.wrap inner).getLast? = some ')' := getLast?_call _ _
      rw [enclosed?_eq_some_iff.mp hbody, List.getLast?_concat] at hlast
      exact absurd (Option.some.inj hlast) (by decide)

/-- Around anything that stands for a string, a call stands for the string replaced. -/
theorem replaceCall?_wrap {inner t : Text} (hinner : IsToken inner)
    (htext : innerText? inner = some t) (layer : Layer) :
    replaceCall? (layer.wrap inner) = some (Text.replaceAll layer.marker [layer.char] t) := by
  obtain ⟨m, ms, hmarker⟩ := List.exists_cons_of_ne_nil layer.marker_ne_nil
  have hcall : arguments? "replace".toList (layer.wrap inner) =
      some (Text.joinWith [','] (layer.arguments inner)) := arguments?_call _ _
  unfold replaceCall?
  split
  · rename_i hnone
    rw [hcall] at hnone
    cases hnone
  · rename_i list hlist
    rw [hcall] at hlist
    cases hlist
    split
    · rename_i base marker code hargs
      rw [splitValues_arguments hinner] at hargs
      cases hargs
      rw [innerText?] at htext
      cases hliteral : text? inner with
      | some plain =>
          rw [hliteral, Option.some_or] at htext
          simp only [text?_ofText, charCall?_charCall, hmarker, Option.some.inj htext]
      | none =>
          rw [hliteral, Option.none_or] at htext
          simp only [text?_ofText, charCall?_charCall, hmarker, htext]
    · rename_i hargs
      exact absurd (splitValues_arguments hinner layer) (hargs _ _ _)

theorem innerText?_wrap {inner t : Text} (hinner : IsToken inner)
    (htext : innerText? inner = some t) (layer : Layer) :
    innerText? (layer.wrap inner) = some (Text.replaceAll layer.marker [layer.char] t) := by
  rw [innerText?, text?_wrap, Option.none_or, replaceCall?_wrap hinner htext]

theorem Layer.turns_cons_iff {layer : Layer} {layers : List Layer} {t u : Text} :
    Turns (layer :: layers) t u ↔
      Turns layers (Text.replaceAll layer.marker [layer.char] t) u := by
  constructor
  · intro h
    cases h with
    | cons hhere hlater =>
        rw [← (Text.replaces_iff layer.marker_ne_nil).mp hhere]
        exact hlater
  · exact fun h => .cons ((Text.replaces_iff layer.marker_ne_nil).mpr rfl) h

/-- The layers around a token turn the string that it stands for, one after the other. -/
theorem exists_innerText?_wraps {inner t : Text} (hinner : IsToken inner)
    (htext : innerText? inner = some t) (layers : List Layer) :
    ∃ u, (∀ v, Layer.Turns layers t v ↔ v = u) ∧
      innerText? (layers.foldl (fun inner layer => layer.wrap inner) inner) = some u := by
  induction layers generalizing inner t with
  | nil =>
      refine ⟨t, fun v => ⟨?_, ?_⟩, htext⟩
      · intro h
        cases h
        rfl
      · rintro rfl
        exact .nil v
  | cons layer layers ih =>
      obtain ⟨u, hturns, hread⟩ :=
        ih (isToken_wrap hinner layer) (innerText?_wrap hinner htext layer)
      exact ⟨u, fun v => Layer.turns_cons_iff.trans (hturns v), hread⟩

theorem replaceCall?_spelling_eq {layers : List Layer} (hlayers : layers ≠ []) (t : Text) :
    replaceCall? (spelling t layers) = innerText? (spelling t layers) := by
  obtain ⟨inside, outermost, rfl⟩ := (List.eq_nil_or_concat layers).resolve_left hlayers
  rw [spelling, List.concat_eq_append, List.foldl_concat, innerText?, text?_wrap, Option.none_or]

/-- A string with layers around it is read as what the layers turn it into, and as nothing else. -/
theorem exists_replaceCall?_spelling (t : Text) {layers : List Layer} (hlayers : layers ≠ []) :
    ∃ u, (∀ v, Layer.Turns layers t v ↔ v = u) ∧ replaceCall? (spelling t layers) = some u := by
  rw [replaceCall?_spelling_eq hlayers]
  exact exists_innerText?_wraps (isToken_enclose (by decide) t) (innerText?_ofText t) layers

end Literal

end DumpConvert.Sql
