import Preconnect.Proofs.Judging
import Preconnect.Proofs.Shown

/-!
The members of an object as mentions of fields, whatever stands under the keys. Reading an object
comes to judging what it mentions, so the first problem in the text decides.
-/
namespace Preconnect.Request

open Json (Derives Found Gap Row Shows Spells Stops literal shows_literal skipSpace_gap)

/-- What a member mentions, by the text of its key and the one of its value. -/
inductive Names : List Char → List Char → List Mention → Prop
  | field {field : Field} {name text : List Char} {shown : Option Found}
      (spells : Spells .read field.key.toList name) (shows : Shows shown text) :
    Names name text [.field field shown]
  | foreign {key : String} {name text : List Char} (spells : Spells .read key.toList name)
      (unknown : key ∉ keys) (value : Derives .value text) :
    Names name text []
  | garbled {cs name text : List Char} (spells : Spells .skip cs name)
      (unreadable : ∀ cs, ¬ Spells .read cs name) (value : Derives .value text) :
    Names name text [.garbled]

inductive Tells : List Mention → List Char → Prop
  | mk {mentions : List Mention} {before name between ahead text behind : List Char}
      (gap : Gap before) (gap₁ : Gap between) (gap₂ : Gap ahead)
      (names : Names name text mentions) (gap₃ : Gap behind) :
    Tells mentions
      (before ++ '"' :: (name ++ '"' :: (between ++ ':' :: (ahead ++ (text ++ behind)))))

/-- What is between the braces of an object, and what it mentions in its order. -/
inductive Contents : List Mention → List Char → Prop
  | empty {inside : List Char} (gap : Gap inside) : Contents [] inside
  | members {told : List (List Mention)} {inside : List Char} (members : Row Tells told inside) :
    Contents told.flatten inside

section
variable {gap rest : List Char}

theorem names_some {cs name text : List Char} (spells : Spells .skip cs name)
    (value : Derives .value text) : ∃ mentions, Names name text mentions := by
  by_cases readable : ∃ cs, Spells .read cs name
  · obtain ⟨key, reads⟩ := readable
    rw [← String.toList_ofList (l := key)] at reads
    by_cases known : String.ofList key ∈ keys
    · obtain ⟨field, same⟩ : ∃ field : Field, field.key = String.ofList key := by
        simp only [keys, List.mem_cons, List.not_mem_nil, or_false] at known
        rcases known with known | known | known | known <;> rw [known]
        exacts [⟨.target, rfl⟩, ⟨.workers, rfl⟩, ⟨.failFast, rfl⟩, ⟨.poolName, rfl⟩]
      rw [← same] at reads
      obtain ⟨shown, shows⟩ := value.shows
      exact ⟨_, .field reads shows⟩
    · exact ⟨_, .foreign reads known value⟩
  · exact ⟨_, .garbled spells (fun cs reads => readable ⟨cs, reads⟩) value⟩

theorem tells_some {text : List Char} (item : Derives (.item .object) text) :
    ∃ mentions, Tells mentions text := by
  cases item with
  | member gap spells gap₁ gap₂ value gap₃ =>
    obtain ⟨mentions, names⟩ := names_some spells value
    exact ⟨mentions, .mk gap gap₁ gap₂ names gap₃⟩

theorem Tells.derives {mentions : List Mention} {text : List Char} (tells : Tells mentions text) :
    Derives (.item .object) text := by
  obtain ⟨gap, gap₁, gap₂, names, gap₃⟩ := tells
  cases names with
  | field spells shows =>
    obtain ⟨_, skips⟩ := spells.skipped
    exact .member gap skips gap₁ gap₂ shows.derives gap₃
  | foreign spells _ value =>
    obtain ⟨_, skips⟩ := spells.skipped
    exact .member gap skips gap₁ gap₂ value gap₃
  | garbled skips _ value => exact .member gap skips gap₁ gap₂ value gap₃

theorem contents_iff {inside : List Char} :
    (Gap inside ∨ Derives (.items .object) inside) ↔ ∃ mentions, Contents mentions inside := by
  constructor
  · rintro (gap | items)
    · exact ⟨[], .empty gap⟩
    · obtain ⟨told, members⟩ := items.row tells_some
      exact ⟨_, .members members⟩
  · rintro ⟨_, gap | members⟩
    · exact .inl gap
    · exact .inr (members.derives Tells.derives)

theorem setting?_of_opens {found : Found} (opens : found.opens = true) (field : Field) :
    field.setting? found = none := by
  cases found with
  | sequence | map => cases field <;> rfl
  | null | bool | number | text => cases opens

theorem readField_shown {shown : Option Found} {text : List Char} (gaps : Gap gap)
    (shows : Shows shown text) (stops : Stops rest) (draft : Draft) (field : Field) :
    readField draft field (gap ++ (text ++ rest)) =
      (draft.fill field shown).map fun draft => (draft, rest) := by
  rw [readField, skipSpace_gap gaps, shows.derives.start]
  cases shown with
  | none =>
    rw [shows.unreadable stops]
    rfl
  | some found =>
    obtain ⟨behind, reads, scalar⟩ := shows.found stops
    rw [reads, ofText, ok_bind, Draft.fill]
    dsimp only
    cases opens : found.opens with
    | false =>
      rw [scalar opens]
      cases draft.put field found <;> rfl
    | true =>
      -- Only the bracket has been read, but what is read so is refused.
      rw [Draft.put_eq, setting?_of_opens opens]
      rfl

theorem readMember_field (gaps : Gap gap) (draft : Draft) (field : Field) (s : List Char) :
    readMember draft field.key (gap ++ ':' :: s) =
      if draft.has field then .error (.values (.duplicate field)) else readField draft field s := by
  rw [readMember, Field.ofKey?_self, skipColon_read gaps]
  rfl

theorem readMember_foreign {key : String} {ahead text : List Char} (unknown : key ∉ keys)
    (gaps : Gap gap) (gap₁ : Gap ahead) (value : Derives .value text) (stops : Stops rest)
    (draft : Draft) :
    readMember draft key (gap ++ ':' :: (ahead ++ (text ++ rest))) = .ok (draft, rest) :=
  readMember_read gaps gap₁ (.foreign unknown value) stops fun _ member => by cases member

theorem readMembers_fault {first : Bool} {s : List Char} {fault : Json.Fault}
    (next : nextKey first s = .error fault) (draft : Draft) :
    readMembers draft first s = .error (.text fault) := by
  rw [readMembers, next]

theorem nextKey_garbled {cs name : List Char} (gaps : Gap gap) (spells : Spells .skip cs name)
    (unreadable : ∀ cs, ¬ Spells .read cs name) (first : Bool) (s : List Char) :
    nextKey first (comma first ++ (gap ++ '"' :: (name ++ '"' :: s))) = .error .malformed := by
  rw [nextKey_quote gaps, readKey]
  obtain ⟨cs, reads⟩ | fails := spells.decided s
  · exact absurd reads (unreadable cs)
  · rw [fails]
    rfl

theorem Tells.read {mentions : List Mention} {text : List Char} (tells : Tells mentions text)
    (stops : Stops rest) (draft : Draft) (first : Bool) :
    readMembers draft first (comma first ++ (text ++ rest)) =
      mentions.foldlM Draft.heed draft >>= fun draft => readMembers draft false rest := by
  obtain ⟨gap, gap₁, gap₂, names, gap₃⟩ := tells
  simp only [List.append_assoc, List.cons_append]
  have stops := Json.stops_gap gap₃ stops
  cases names with
  | @field field name text shown spells shows =>
    rw [readMembers_key (nextKey_read gap spells first _), readMember_field gap₁,
      readField_shown gap₂ shows stops, List.foldlM_cons, Draft.heed]
    split
    · rfl
    · cases draft.fill field shown with
      | error => rfl
      | ok filled => exact readMembers_gap gap₃ filled false rest
  | foreign spells unknown value =>
    rw [readMembers_key (nextKey_read gap spells first _),
      readMember_foreign unknown gap₁ gap₂ value stops]
    exact readMembers_gap gap₃ draft false rest
  | garbled spells unreadable =>
    exact readMembers_fault (nextKey_garbled gap spells unreadable first _) draft

/-- What the members mention is heeded in the order of the text. -/
theorem readMembers_row {told : List (List Mention)} {text : List Char}
    (members : Row Tells told text) (draft : Draft) (first : Bool) (behind : List Char) :
    readMembers draft first (comma first ++ (text ++ '\x7d' :: behind)) =
      (told.flatten.foldlM Draft.heed draft).map fun draft => (draft, behind) := by
  have map_eq (x : Except ReadError Draft) :
      (x >>= fun draft => .ok (draft, behind)) = x.map fun draft => (draft, behind) := by
    cases x <;> rfl
  induction members generalizing draft first with
  | @last mentions text tells =>
    have stops : Stops ('\x7d' :: behind) := Json.stops_closing .object behind
    have ends (draft : Draft) := readMembers_end draft false behind
    rw [tells.read stops, List.flatten_singleton]
    simp only [ends, map_eq]
  | @more mentions told text rest tells members ih =>
    rw [List.append_assoc, List.cons_append, tells.read (Json.stops_comma _), List.flatten_cons,
      List.foldlM_append]
    have following (draft : Draft) := ih draft false
    simp only [comma, Bool.false_eq_true, if_false, List.singleton_append] at following
    simp only [following]
    cases mentions.foldlM Draft.heed draft <;> rfl

theorem Contents.read {mentions : List Mention} {inside : List Char}
    (contents : Contents mentions inside) (behind : List Char) :
    readMembers {} true (inside ++ '\x7d' :: behind) =
      (mentions.foldlM Draft.heed {}).map fun draft => (draft, behind) := by
  cases contents with
  | empty gap =>
    rw [readMembers_gap gap, readMembers_end]
    rfl
  | members members => exact readMembers_row members {} true behind

theorem finish_judge (gap : Gap rest) (mentions : List Mention) :
    (do
      let (draft, rest) ← (mentions.foldlM Draft.heed {}).map fun draft => (draft, rest)
      let request ← ofValues draft.finish
      ofText (readEnd rest)
      return request) = judge mentions := by
  rw [judge, ← Draft.holds_nil.judged]
  cases mentions.foldlM Draft.heed {} with
  | error => rfl
  | ok draft =>
    simp only [Except.map, ok_bind, Asked.readEnd_read gap]
    cases ofValues draft.finish <;> rfl

theorem Contents.judged {mentions : List Mention} {before inside behind : List Char}
    (contents : Contents mentions inside) (gap : Gap before) (gap₁ : Gap behind) :
    Request.read (String.ofList (before ++ '\x7b' :: (inside ++ '\x7d' :: behind))) =
      judge mentions := by
  have brace : Json.skipSpace (before ++ '\x7b' :: (inside ++ '\x7d' :: behind)) =
      '\x7b' :: (inside ++ '\x7d' :: behind) := by
    rw [skipSpace_gap gap]
    rfl
  rw [Request.read, String.toList_ofList, readChars, brace]
  simp only [contents.read behind]
  exact finish_judge gap₁ mentions

end

theorem weigh_integer {field : Field} {count : UInt32 → Setting}
    (counts : (field, count) ∈ [(.target, .target), (.workers, .workers)])
    {settings : List Setting} (new : field ∉ settings.map Setting.field) (n : Int) :
    weigh settings (.field field (some (.number (.integer n)))) =
      if 0 ≤ n ∧ n ≤ 4294967295 then .ok (settings ++ [count (.ofNat n.toNat)])
      else .error (.values (.invalidCount n)) := by
  simp only [List.mem_cons, List.not_mem_nil, or_false, Prod.mk.injEq] at counts
  rw [weigh, if_neg new]
  by_cases fits : 0 ≤ n ∧ n ≤ 4294967295
  · rcases counts with ⟨rfl, rfl⟩ | ⟨rfl, rfl⟩ <;> simp [Field.setting?, count?, fits]
  · rcases counts with ⟨rfl, rfl⟩ | ⟨rfl, rfl⟩ <;>
      simp [Field.setting?, count?, fits, Field.refusal]

theorem message_invalidCount (n : Int) :
    (Rejection.invalidCount n).message =
      "invalid value: integer `" ++ toString n ++ "`, expected u32" := by
  have tail : "`, expected " ++ "u32" = "`, expected u32" := by decide
  calc
    _ = "invalid value: integer `" ++ toString n ++ "`, expected " ++ "u32" := rfl
    _ = _ := by rw [String.append_assoc, tail]

/-- Whatever the members of an object are, reading the object comes to judging what they mention in
the order of the text. A field that is mentioned again is refused before its value is looked at,
a value that a field cannot have is refused for what it is, and only behind the last member it is
asked which of the counts is missing. An integer that 64 bits hold is not refused for its type. -/
theorem first_problem_decides {before inside behind : List Char} (gap : Gap before)
    (gap₁ : Gap behind) :
    ((Gap inside ∨ Derives (.items .object) inside) ↔ ∃ mentions, Contents mentions inside) ∧
      (∀ mentions, Contents mentions inside →
        read (String.ofList (before ++ '\x7b' :: (inside ++ '\x7d' :: behind))) =
          judge mentions) ∧
      (∀ field : Field,
        (Rejection.duplicate field).message = "duplicate field `" ++ field.key ++ "`" ∧
          (Rejection.missing field).message = "missing field `" ++ field.key ++ "`") ∧
      ∀ n : Int, -0x8000000000000000 ≤ n → n < 0x10000000000000000 →
        Shows (some (.number (.integer n))) (literal n) ∧
          (Rejection.invalidCount n).message =
            "invalid value: integer `" ++ toString n ++ "`, expected u32" ∧
          ∀ field count, (field, count) ∈ [(Field.target, Setting.target), (.workers, .workers)] →
            ∀ settings : List Setting, field ∉ settings.map Setting.field →
              weigh settings (.field field (some (.number (.integer n)))) =
                if 0 ≤ n ∧ n ≤ 4294967295 then .ok (settings ++ [count (.ofNat n.toNat)])
                else .error (.values (.invalidCount n)) :=
  ⟨contents_iff, fun _ contents => contents.judged gap gap₁, fun _ => ⟨rfl, rfl⟩,
    fun n low high => ⟨shows_literal n low high, message_invalidCount n,
      fun _ _ counts _ new => weigh_integer counts new n⟩⟩

/-- A name of the wrong type is not looked at where it is given again, and neither is what else is
wrong behind it. -/
theorem first_problem_decides_duplicate :
    let inside := "\"poolName\":null,\"pool\":[1],\"poolName\":4 ,\"targetCount\":-1".toList
    Gap [] ∧ Gap ['\n'] ∧
      read (String.ofList ([] ++ '\x7b' :: (inside ++ '\x7d' :: ['\n']))) =
        .error (.values (.duplicate .poolName)) := by
  intro inside
  have none : Gap [] := Json.gap_nil
  have blank : Gap [' '] := by simp [Gap]
  have line : Gap ['\n'] := by simp [Gap]
  have one : Shows (some (.number (.integer 1))) ['1'] :=
    shows_literal 1 (by decide) (by decide)
  have four : Shows (some (.number (.integer 4))) ['4'] :=
    shows_literal 4 (by decide) (by decide)
  have low : Shows (some (.number (.integer (-1)))) ['-', '1'] :=
    shows_literal (-1) (by decide) (by decide)
  have list : Derives .value _ := .array (.last (.element none one.derives none))
  have poolName : Spells .read Field.poolName.key.toList "poolName".toList :=
    Json.spells_written "poolName".toList
  have pool : Spells .read "pool".toList "pool".toList := Json.spells_written "pool".toList
  have target : Spells .read Field.target.key.toList "targetCount".toList :=
    Json.spells_written "targetCount".toList
  have members : Row Tells _ _ :=
    .more (.mk none none none (.field poolName .null) none) <|
    .more (.mk none none none (.foreign pool (by decide) list) none) <|
    .more (.mk none none none (.field poolName four) blank) <|
    .last (.mk none none none (.field target low) none)
  have contents : Contents _ inside :=
    cast (congrArg (Contents _) (by decide +kernel)) (Contents.members members)
  refine ⟨none, line, ?_⟩
  rw [(first_problem_decides none line).2.1 _ contents]
  rfl

end Preconnect.Request
