import RecordQuery.Proofs.Compile.Attribute
import RecordQuery.Proofs.Text.Lowercase

/-!
# Tests of texts

`$startsWith`, `$endsWith` and `$likeI` compare lower-case forms and `$like` the texts as they are
(`Document.answers_text`), and none of the four is true of anything but a text
(`Document.answers_no_text`). The operand is lower-cased by itself and the attribute as a whole, so
the first three accept a part of the attribute unless it has a capital sigma that ends a word in the
one and not in the other (`Document.answers_part`).
-/

namespace RecordQuery

/-- What `$startsWith`, `$endsWith`, `$like` and `$likeI` say of an operand `t` and an attribute
`s`. -/
def Operator.Relates (op : Operator) (t s : List Char) : Prop :=
  match op with
  | .startsWith => Text.lowercase t <+: Text.lowercase s
  | .endsWith => Text.lowercase t <:+ Text.lowercase s
  | .like => t <:+: s
  | .likeCaseless => Text.lowercase t <:+: Text.lowercase s
  | _ => False

theorem Operator.guard_of_shape {op : Operator} (h : op.shape = .string) : op.guard = .string := by
  cases op with
  | startsWith | endsWith | like | likeCaseless => rfl
  | _ => cases h

theorem Kind.ofAttribute_eq_string_iff {attr : Option Json} :
    Kind.ofAttribute attr = .string ↔ ∃ text, attr = some (.string text) := by
  constructor
  · intro h
    cases attr with
    | none => cases h
    | some v =>
      cases v with
      | string text => exact ⟨text, rfl⟩
      | _ => cases h
  · rintro ⟨text, rfl⟩
    rfl

/-- Whatever text the operand becomes, the operator states a test of the attribute. -/
theorem statesTest_text {key : String} {op : Operator} (hop : op.shape = .string)
    {t operand : String} (hcompile : compileTest key op none (.string t) =
      .ok (.condition (.ofKey key op (.text operand)))) :
    StatesTest key (op.name, .string t) (.ofKey key op (.text operand)) where
  verb := by
    refine ⟨op, rfl, ?_, hcompile⟩
    rw [Operator.accepts, hop]
    rfl
  key_eq := rfl
  path_eq := rfl
  plain := trivial

namespace Document

section Answers

variable {key : String} (hkey : Combinator.ofName? key = none) (calls : Callbacks Id)
include hkey

/-- The operand goes through the compiler and the attribute through the test, and both come out in
the form in which they are compared. -/
theorem answers_text {op : Operator} (hop : op.shape = .string) {s : Subject Id} {text : String}
    (hattr : (s.attr key (Path.ofKey? key)).run = .ok (some (.string text))) (t : String) :
    ∃ b, (testing key op (.string t)).Answers calls s b ∧
      (b = true ↔ op.Relates t.toList text.toList) := by
  have hanswers : ∀ operand : String, op.admits .string = true →
      compileTest key op none (.string t) = .ok (.condition (.ofKey key op (.text operand))) →
        (testing key op (.string t)).Answers calls s
          (op.test (.text operand) (some (.string text))) := by
    intro operand hadmits hcompile
    have h := answers_testing hkey (statesTest_text hop hcompile) calls hattr
    rwa [Condition.matches_ofKey,
      show op.admits (.ofAttribute (some (.string text))) = true from hadmits,
      Bool.true_and] at h
  cases op with
  | startsWith =>
    refine ⟨_, hanswers (.ofList (Text.lowercase t.toList)) rfl rfl, ?_⟩
    show List.isPrefixOf (String.ofList _).toList _ = true ↔ _
    rw [String.toList_ofList, List.isPrefixOf_iff_prefix]
    exact Iff.rfl
  | endsWith =>
    refine ⟨_, hanswers (.ofList (Text.reverseLower t.toList)) rfl rfl, ?_⟩
    show List.isPrefixOf (String.ofList _).toList _ = true ↔ _
    rw [String.toList_ofList, List.isPrefixOf_iff_prefix]
    exact Text.reverseLower_prefix_iff
  | like => exact ⟨_, hanswers t rfl rfl, Text.occursIn_iff⟩
  | likeCaseless =>
    refine ⟨_, hanswers (.ofList (Text.lowercase t.toList)) rfl rfl, ?_⟩
    show Text.occursIn (String.ofList _).toList _ = true ↔ _
    rw [String.toList_ofList]
    exact Text.occursIn_iff
  | _ => cases hop

/-- `$startsWith`, `$endsWith`, `$like` and `$likeI` are false of everything but a text. -/
theorem answers_no_text {op : Operator} (hop : op.shape = .string) {s : Subject Id}
    {attr : Option Json} (hattr : (s.attr key (Path.ofKey? key)).run = .ok attr)
    (hno : ∀ text, attr ≠ some (.string text)) (t : String) :
    (testing key op (.string t)).Answers calls s false := by
  have hcompile : ∃ operand : String,
      compileTest key op none (.string t) = .ok (.condition (.ofKey key op (.text operand))) := by
    cases op with
    | startsWith | endsWith | like | likeCaseless => exact ⟨_, rfl⟩
    | _ => cases hop
  have hadmits : op.admits (.ofAttribute attr) = false := by
    rw [Operator.admits, Operator.guard_of_shape hop]
    refine decide_eq_false fun hkind => ?_
    obtain ⟨text, htext⟩ := Kind.ofAttribute_eq_string_iff.1 hkind
    exact hno text htext
  obtain ⟨operand, hoperand⟩ := hcompile
  have h := answers_testing hkey (statesTest_text hop hoperand) calls hattr
  rwa [Condition.matches_ofKey, hadmits, Bool.false_and] at h

/-- The operand is lower-cased when it is compiled and the attribute when it is tested, and
`$endsWith` looks for a beginning of what is reversed: `$startsWith`, `$likeI` and `$endsWith` come
to a comparison of the two lower-case texts, `$like` to one of the texts themselves. An attribute
that is no text passes none of the four. -/
theorem answers_prepared {s : Subject Id} {attr : Option Json}
    (hattr : (s.attr key (Path.ofKey? key)).run = .ok attr) (t : String) :
    ∃ starts caseless ends within : Bool,
      (testing key .startsWith (.string t)).Answers calls s starts ∧
      (testing key .likeCaseless (.string t)).Answers calls s caseless ∧
      (testing key .endsWith (.string t)).Answers calls s ends ∧
      (testing key .like (.string t)).Answers calls s within ∧
      (∀ text, attr = some (.string text) →
        (starts = true ↔ Text.lowercase t.toList <+: Text.lowercase text.toList) ∧
        (caseless = true ↔ Text.lowercase t.toList <:+: Text.lowercase text.toList) ∧
        (ends = true ↔ Text.lowercase t.toList <:+ Text.lowercase text.toList) ∧
        (within = true ↔ t.toList <:+: text.toList)) ∧
      ((∀ text, attr ≠ some (.string text)) →
        starts = false ∧ caseless = false ∧ ends = false ∧ within = false) := by
  by_cases hstring : ∃ text, attr = some (.string text)
  · obtain ⟨text, rfl⟩ := hstring
    have htests : ∀ op : Operator, op.shape = .string →
        ∃ b, (testing key op (.string t)).Answers calls s b ∧
          (b = true ↔ op.Relates t.toList text.toList) := fun op hop =>
      answers_text hkey calls hop hattr t
    obtain ⟨starts, hstarts, hbegins⟩ := htests .startsWith rfl
    obtain ⟨caseless, hcaseless, hholds⟩ := htests .likeCaseless rfl
    obtain ⟨ends, hends, hcloses⟩ := htests .endsWith rfl
    obtain ⟨within, hwithin, hpart⟩ := htests .like rfl
    refine ⟨starts, caseless, ends, within, hstarts, hcaseless, hends, hwithin, ?_,
      fun hno => absurd rfl (hno text)⟩
    rintro _ ⟨⟩
    exact ⟨hbegins, hholds, hcloses, hpart⟩
  · have hno : ∀ text, attr ≠ some (.string text) := fun text h => hstring ⟨text, h⟩
    have hfalse : ∀ op : Operator, op.shape = .string →
        (testing key op (.string t)).Answers calls s false := fun op hop =>
      answers_no_text hkey calls hop hattr hno t
    exact ⟨false, false, false, false, hfalse _ rfl, hfalse _ rfl, hfalse _ rfl, hfalse _ rfl,
      fun text h => absurd h (hno text), fun _ => ⟨rfl, rfl, rfl, rfl⟩⟩

/-- `$like` finds every part of the attribute in it. `$likeI` finds those that keep their sigmas,
and `$startsWith` and `$endsWith` accept a beginning or an end of the attribute exactly if it keeps
them. A part without capital sigmas does. -/
theorem answers_part {ρ : Type} [Queryable Id ρ] (getter : Getter Id ρ) (r : ρ)
    {before t after : String} (hattr : ((Subject.of getter r).attr key (Path.ofKey? key)).run =
      .ok (some (.string (before ++ t ++ after)))) :
    (testing key .like (.string t)).Answers calls (.of getter r) true ∧
    (Text.KeepsSigmas before.toList t.toList after.toList →
      (testing key .likeCaseless (.string t)).Answers calls (.of getter r) true) ∧
    (before = "" → ∃ b, (testing key .startsWith (.string t)).Answers calls (.of getter r) b ∧
      (b = true ↔ Text.KeepsSigmas before.toList t.toList after.toList)) ∧
    (after = "" → ∃ b, (testing key .endsWith (.string t)).Answers calls (.of getter r) b ∧
      (b = true ↔ Text.KeepsSigmas before.toList t.toList after.toList)) ∧
    ('Σ' ∉ t.toList → Text.KeepsSigmas before.toList t.toList after.toList) := by
  have hanswers : ∀ op : Operator, op.shape = .string →
      ∃ b, (testing key op (.string t)).Answers calls (.of getter r) b ∧
        (b = true ↔ op.Relates t.toList (before.toList ++ t.toList ++ after.toList)) := by
    intro op hop
    have h := answers_text hkey calls hop hattr t
    rwa [String.toList_append, String.toList_append] at h
  have haccepted : ∀ op : Operator, op.shape = .string →
      op.Relates t.toList (before.toList ++ t.toList ++ after.toList) →
        (testing key op (.string t)).Answers calls (.of getter r) true := by
    intro op hop hrelates
    obtain ⟨b, hb, hiff⟩ := hanswers op hop
    rwa [hiff.2 hrelates] at hb
  refine ⟨haccepted .like rfl ⟨_, _, rfl⟩,
    fun hkeeps => haccepted .likeCaseless rfl (Text.infix_lowercase hkeeps), ?_, ?_,
    Text.keepsSigmas_of_notMem⟩
  · rintro rfl
    obtain ⟨b, hb, hiff⟩ := hanswers .startsWith rfl
    exact ⟨b, hb, hiff.trans Text.prefix_lowercase_iff⟩
  · rintro rfl
    obtain ⟨b, hb, hiff⟩ := hanswers .endsWith rfl
    refine ⟨b, hb, hiff.trans ?_⟩
    rw [String.toList_empty, List.append_nil]
    exact Text.suffix_lowercase_iff

end Answers

/-- An attribute that ends in the operand but for the case, and one that is no text. -/
theorem answers_prepared_capital :
    let calls : Callbacks Id := fun _ _ _ => .error "none"
    let s (v : Json) : Subject Id := .of .property (Json.ofFields (.singleton "a" v))
    ((testing "a" .startsWith (.string "BÄR")).Answers calls (s (.string "Eisbär")) false ∧
      (testing "a" .likeCaseless (.string "BÄR")).Answers calls (s (.string "Eisbär")) true ∧
      (testing "a" .endsWith (.string "BÄR")).Answers calls (s (.string "Eisbär")) true ∧
      (testing "a" .like (.string "BÄR")).Answers calls (s (.string "Eisbär")) false) ∧
    (testing "a" .like (.string "BÄR")).Answers calls (s .null) false := by
  intro calls s
  have hkey : Combinator.ofName? "a" = none := rfl
  have htext : ((s (.string "Eisbär")).attr "a" (Path.ofKey? "a")).run =
      .ok (some (.string "Eisbär")) := rfl
  have hnull : ((s .null).attr "a" (Path.ofKey? "a")).run = .ok (some .null) := rfl
  obtain ⟨starts, caseless, ends, within, hstarts, hcaseless, hends, hwithin, hanswers, -⟩ :=
    answers_prepared hkey calls htext "BÄR"
  obtain ⟨hbegins, hholds, hcloses, hpart⟩ := hanswers _ rfl
  obtain ⟨_, _, _, _, -, -, -, hother, -, hnone⟩ := answers_prepared hkey calls hnull "BÄR"
  obtain ⟨-, -, -, rfl⟩ := hnone nofun
  have hlower : Text.lowercase "BÄR".toList = "bär".toList := by decide +kernel
  have hall : Text.lowercase "Eisbär".toList = "eisbär".toList := by decide +kernel
  rw [hlower, hall] at hbegins hholds hcloses
  obtain rfl : starts = false := Bool.eq_false_iff.2 fun h => absurd (hbegins.1 h) (by decide)
  obtain rfl : caseless = true := hholds.2 (by decide)
  obtain rfl : ends = true := hcloses.2 (by decide)
  obtain rfl : within = false := Bool.eq_false_iff.2 fun h => absurd (hpart.1 h) (by decide)
  exact ⟨⟨hstarts, hcaseless, hends, hwithin⟩, hother⟩

/-- The sigma ends the word in the whole text as it does in the part. -/
theorem answers_part_end :
    let calls : Callbacks Id := fun _ _ _ => .error "none"
    let s : Subject Id := .of .property (Json.ofFields (.singleton "a" (.string "ΟΔΟΣ")))
    (testing "a" .like (.string "ΔΟΣ")).Answers calls s true ∧
      (testing "a" .likeCaseless (.string "ΔΟΣ")).Answers calls s true ∧
      (testing "a" .endsWith (.string "ΔΟΣ")).Answers calls s true := by
  intro calls s
  have hkeeps : Text.KeepsSigmas "Ο".toList "ΔΟΣ".toList "".toList :=
    Text.lowerWithin_eq_lowercase_iff.1 (by decide +kernel)
  have hattr : (s.attr "a" (Path.ofKey? "a")).run =
      .ok (some (.string ("Ο" ++ "ΔΟΣ" ++ ""))) := rfl
  obtain ⟨hlike, hcaseless, -, hend, -⟩ :=
    answers_part (by decide) calls .property _ hattr
  obtain ⟨b, hb, hiff⟩ := hend rfl
  rw [hiff.2 hkeeps] at hb
  exact ⟨hlike, hcaseless hkeeps, hb⟩

/-- A sigma that ends a word of the part and none of the attribute, and the other way round. -/
theorem answers_part_sigma :
    let calls : Callbacks Id := fun _ _ _ => .error "none"
    let s (text : String) : Subject Id :=
      .of .property (Json.ofFields (.singleton "a" (.string text)))
    (testing "a" .like (.string "ΑΣ")).Answers calls (s "ΑΣΑ") true ∧
      (testing "a" .likeCaseless (.string "ΑΣ")).Answers calls (s "ΑΣΑ") false ∧
      (testing "a" .startsWith (.string "ΑΣ")).Answers calls (s "ΑΣΑ") false ∧
      (testing "a" .endsWith (.string "Σ")).Answers calls (s "ΑΣ") false := by
  intro calls s
  have hanswers : ∀ {op : Operator} {t text : String} {b : Bool}, op.shape = .string →
      (b = true ↔ op.Relates t.toList text.toList) →
        (testing "a" op (.string t)).Answers calls (s text) b := by
    intro op t text b hop hb
    have hattr : ((s text).attr "a" (Path.ofKey? "a")).run = .ok (some (.string text)) := rfl
    obtain ⟨b', hanswer, hiff⟩ := answers_text (by decide) calls hop hattr t
    rwa [Bool.eq_iff_iff.2 (hb.trans hiff.symm)]
  refine ⟨hanswers rfl (iff_of_true rfl ?_), hanswers rfl (iff_of_false nofun ?_),
    hanswers rfl (iff_of_false nofun ?_), hanswers rfl (iff_of_false nofun ?_)⟩
  · show "ΑΣ".toList <:+: "ΑΣΑ".toList
    decide
  · show ¬Text.lowercase "ΑΣ".toList <:+: Text.lowercase "ΑΣΑ".toList
    decide +kernel
  · show ¬Text.lowercase "ΑΣ".toList <+: Text.lowercase "ΑΣΑ".toList
    decide +kernel
  · show ¬Text.lowercase "Σ".toList <:+ Text.lowercase "ΑΣ".toList
    decide +kernel

end Document

end RecordQuery
