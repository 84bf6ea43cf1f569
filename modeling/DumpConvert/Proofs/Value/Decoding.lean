import DumpConvert.Proofs.Sql.ReplaceCall
import DumpConvert.Proofs.Value.Preservation

/-!
# Strings spelled with `replace`

A token that is read as calls of `replace` is written as the string that the calls stand
for, in every place and under every profile (`text_convert_of_replaceCall?`).  So a string
with layers of calls around it is written as what the layers turn it into, and a character
that was spelled with a marker comes back if the marker can be told apart from the text
around it (`text_convert_spelling`).
-/

namespace DumpConvert.Value

open Sql

theorem getLast?_of_blobDigits? {token digits : Text}
    (h : Literal.blobDigits? token = some digits) : token.getLast? = some '\'' := by
  cases token with
  | nil => cases h
  | cons c rest =>
      rw [Literal.blobDigits?] at h
      split at h
      · obtain ⟨hbody, -⟩ := Option.filter_eq_some_iff.mp h
        rw [enclosed?_eq_some_iff.mp hbody, ← List.cons_append]
        exact List.getLast?_concat
      · cases h

theorem text_convert_of_replaceCall? {token t : Text} (h : Literal.replaceCall? token = some t)
    (profile : Profile) (site : Site) :
    (convert profile token site).text = Literal.ofText t := by
  have hlast : token.getLast? = some ')' := by
    by_contra hother
    rw [Literal.replaceCall?_eq_none hother] at h
    cases h
  have hplain : plainToken token = Literal.ofText t := by
    rw [plainToken, h]
  rcases text_convert_cases profile token site with
    ⟨rfl, -⟩ | ⟨digits, hdigits, -⟩ | hwritten
  · exact absurd hlast (by decide)
  · rw [getLast?_of_blobDigits? hdigits] at hlast
    exact absurd hlast (by decide)
  · rw [hplain] at hwritten
    exact eq_of_writtenAs_ofText hwritten

/-- A marker that is not in the text and cannot overlap itself stands for the character again. -/
theorem replaceCall?_spelling_mark {t marker : Text} {c : Char} (hmarker : marker ≠ [])
    (habsent : ¬ marker <:+: t) (hborder : Text.IsUnbordered marker) :
    Literal.replaceCall? (Literal.spelling (Text.mark marker c t) [⟨marker, c, hmarker⟩]) =
      some t := by
  obtain ⟨u, hturns, hread⟩ :=
    Literal.exists_replaceCall?_spelling (Text.mark marker c t)
      (List.cons_ne_nil (⟨marker, c, hmarker⟩ : Literal.Layer) [])
  have hback : t = u :=
    (hturns t).mp (.cons (Text.replaces_mark hmarker hborder c habsent) (.nil t))
  rw [hread, hback]

/--
The calls around a string are carried out, the innermost first, and the string they leave
is written as a string literal everywhere.  What is spelled with a marker comes back.
-/
theorem text_convert_spelling :
    (∀ t layers, layers ≠ [] →
      ∃ u, (∀ v, Literal.Layer.Turns layers t v ↔ v = u) ∧
        Literal.replaceCall? (Literal.spelling t layers) = some u ∧
        ∀ profile site,
          (convert profile (Literal.spelling t layers) site).text = Literal.ofText u) ∧
    (∀ t marker c, (hmarker : marker ≠ []) → ¬ marker <:+: t → Text.IsUnbordered marker →
      Literal.replaceCall? (Literal.spelling (Text.mark marker c t) [⟨marker, c, hmarker⟩]) =
        some t) := by
  constructor
  · intro t layers hlayers
    obtain ⟨u, hturns, hread⟩ := Literal.exists_replaceCall?_spelling t hlayers
    exact ⟨u, hturns, hread, text_convert_of_replaceCall? hread⟩
  · intro t marker c hmarker habsent hborder
    exact replaceCall?_spelling_mark hmarker habsent hborder

/-- Two layers around a string that holds a call itself, and a line feed between quotes. -/
theorem text_convert_spelling_nestedCall :
    ∃ layers : List Literal.Layer, layers ≠ [] ∧
      Literal.spelling "replace(',\\n\\r'".toList layers =
        "replace(replace('replace('',\\n\\r''','\\r',char(13)),'\\n',char(10))".toList ∧
      Literal.replaceCall? (Literal.spelling "replace(',\\n\\r'".toList layers) =
        some "replace(',\n\r'".toList ∧
      (∀ profile site,
        (convert profile (Literal.spelling "replace(',\\n\\r'".toList layers) site).text =
          "'replace('',\n\r'''".toList) ∧
      "\\n".toList ≠ [] ∧ ¬ "\\n".toList <:+: "'\n'),".toList ∧
      Text.IsUnbordered "\\n".toList ∧
      Literal.replaceCall? "replace('''\\n''),','\\n',char(10))".toList =
        some "'\n'),".toList := by
  let layers : List Literal.Layer :=
    [⟨"\\r".toList, '\r', by decide⟩, ⟨"\\n".toList, '\n', by decide⟩]
  have hmarker : "\\n".toList ≠ [] := by decide
  have habsent : ¬ "\\n".toList <:+: "'\n'),".toList := by decide
  have hborder : Text.IsUnbordered "\\n".toList := by decide
  obtain ⟨hread, hmark⟩ := text_convert_spelling
  obtain ⟨u, hturns, hcall, htext⟩ := hread "replace(',\\n\\r'".toList layers (by decide)
  have hu : "replace(',\n\r'".toList = u := by
    rw [← hturns, Literal.Layer.turns_cons_iff, Literal.Layer.turns_cons_iff]
    exact .nil _
  have hback := hmark "'\n'),".toList "\\n".toList '\n' hmarker habsent hborder
  have hwritten : Literal.spelling (Text.mark "\\n".toList '\n' "'\n'),".toList)
      [⟨"\\n".toList, '\n', by decide⟩] = "replace('''\\n''),','\\n',char(10))".toList := by
    decide
  rw [← hu] at hcall htext
  rw [hwritten] at hback
  exact ⟨layers, by decide, by decide, hcall, htext, hmarker, habsent, hborder, hback⟩

end DumpConvert.Value
