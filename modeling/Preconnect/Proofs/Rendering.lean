import Mathlib.Data.List.Nodup
import Preconnect.Json.Write
import Preconnect.Proofs.Shown
import Preconnect.Request.Read

/-!
Requests as texts. A text asks for a warm-up in many ways: its members come in any order, among
members that mean nothing, with white space between all tokens and with escapes in all strings.
Reading gives back what was asked for in every one of them.
-/
namespace Preconnect.Request

open Json (Derives Gap Shows Spells Stops skipSpace skipSpace_gap)

inductive Setting
  | target (count : UInt32)
  | workers (count : UInt32)
  | failFast (value : Bool)
  | poolName (name : Option String)
  deriving DecidableEq

def keys : List String := ["targetCount", "workerCount", "failFast", "poolName"]

namespace Setting

def key : Setting → String
  | target _ => "targetCount"
  | workers _ => "workerCount"
  | failFast _ => "failFast"
  | poolName _ => "poolName"

def field : Setting → Field
  | target _ => .target
  | workers _ => .workers
  | failFast _ => .failFast
  | poolName _ => .poolName

inductive Written : Setting → List Char → Prop
  | target (count : UInt32) : Written (.target count) (Nat.toDigits 10 count.toNat)
  | workers (count : UInt32) : Written (.workers count) (Nat.toDigits 10 count.toNat)
  | flag (value : Bool) :
    Written (.failFast value) (if value then "true".toList else "false".toList)
  | unnamed : Written (.poolName none) "null".toList
  | named {name : String} {text : List Char} (spells : Spells .read name.toList text) :
    Written (.poolName (some name)) ('"' :: (text ++ ['"']))

end Setting

/-- What a member with the key and the value sets: a field, or nothing under any other key. -/
inductive Sets : String → List Char → List Setting → Prop
  | setting {setting : Setting} {text : List Char} (written : setting.Written text) :
    Sets setting.key text [setting]
  | foreign {key : String} {text : List Char} (unknown : key ∉ keys)
      (value : Derives .value text) :
    Sets key text []

inductive Member : List Setting → List Char → Prop
  | mk {key : String} {settings : List Setting} {before name between ahead text behind : List Char}
      (gap : Gap before) (spells : Spells .read key.toList name) (gap₁ : Gap between)
      (gap₂ : Gap ahead) (sets : Sets key text settings) (gap₃ : Gap behind) :
    Member settings
      (before ++ '"' :: (name ++ '"' :: (between ++ ':' :: (ahead ++ (text ++ behind)))))

inductive Members : List Setting → List Char → Prop
  | last {settings : List Setting} {text : List Char} (member : Member settings text) :
    Members settings text
  | more {settings others : List Setting} {text rest : List Char} (member : Member settings text)
      (members : Members others rest) :
    Members (settings ++ others) (text ++ ',' :: rest)

/-- What a text can ask for. Only the counts cannot be left out. -/
structure Asked where
  target : UInt32
  workers : UInt32
  failFast : Option Bool := none
  poolName : Option (Option String) := none

namespace Asked

def settings (asked : Asked) : List Setting :=
  [.target asked.target, .workers asked.workers] ++ asked.failFast.toList.map .failFast ++
    asked.poolName.toList.map .poolName

def request (asked : Asked) : Request where
  target := asked.target
  workers := asked.workers
  failFast := asked.failFast.getD true
  poolName := asked.poolName.getD none
  handler := none

inductive Renders (asked : Asked) : String → Prop
  | mk {order : List Setting} {before text behind : List Char} (gap : Gap before)
      (members : Members order text) (complete : order.Perm asked.settings) (gap₁ : Gap behind) :
    Renders asked (String.ofList (before ++ '\x7b' :: (text ++ '\x7d' :: behind)))

end Asked

namespace Draft

def set (draft : Draft) : Setting → Draft
  | .target count => { draft with target := some count }
  | .workers count => { draft with workers := some count }
  | .failFast value => { draft with failFast := some value }
  | .poolName name => { draft with poolName := some name }

theorem has_set {setting : Setting} {field : Field} (other : field ≠ setting.field)
    (draft : Draft) : (draft.set setting).has field = draft.has field := by
  cases setting <;> cases field <;> first | rfl | exact absurd rfl other

theorem set_comm {setting setting' : Setting} (other : setting.field ≠ setting'.field)
    (draft : Draft) : (draft.set setting).set setting' = (draft.set setting').set setting := by
  cases setting <;> cases setting' <;> first | rfl | exact absurd rfl other

end Draft

namespace Setting

theorem shows_count (count : UInt32) :
    Shows (some (.number (.integer count.toNat))) (Nat.toDigits 10 count.toNat) := by
  have below := count.toNat_lt
  have shows := Json.shows_literal count.toNat (by omega) (by omega)
  have plain : Json.literal count.toNat = Nat.toDigits 10 count.toNat := by simp [Json.literal]
  exact plain ▸ shows

theorem Written.shows {setting : Setting} {text : List Char} (written : setting.Written text) :
    ∃ found, Shows (some found) text ∧ found.opens = false ∧
      ∀ draft : Draft, draft.put setting.field found = .ok (draft.set setting) := by
  have count (n : UInt32) : countOf (.number (.integer n.toNat)) = .ok n := by
    have small : (n.toNat : Int) < UInt32.size := by exact_mod_cast n.toNat_lt
    rw [countOf, if_pos ⟨by omega, small⟩, Int.toNat_natCast, UInt32.ofNat_toNat]
  cases written with
  | target n =>
    refine ⟨_, shows_count n, rfl, fun draft => ?_⟩
    rw [field, Draft.put, count]
    rfl
  | workers n =>
    refine ⟨_, shows_count n, rfl, fun draft => ?_⟩
    rw [field, Draft.put, count]
    rfl
  | flag value => exact ⟨_, .bool value, rfl, fun _ => rfl⟩
  | unnamed => exact ⟨_, .null, rfl, fun _ => rfl⟩
  | @named name text spells =>
    have shows := Shows.text spells
    rw [String.ofList_toList] at shows
    exact ⟨_, shows, rfl, fun _ => rfl⟩

end Setting

section
variable {gap rest : List Char}

theorem skipColon_read (gaps : Gap gap) (s : List Char) :
    skipColon (gap ++ ':' :: s) = .ok s := by
  have colon : skipSpace (':' :: s) = ':' :: s := rfl
  rw [skipColon, skipSpace_gap gaps, colon]
  rfl

theorem readKey_read {key : String} {text : List Char} (spells : Spells .read key.toList text)
    (s : List Char) : readKey ('"' :: (text ++ '"' :: s)) = .ok (key, s) := by
  rw [readKey, spells.read]
  simp [Except.map]

def comma (first : Bool) : List Char := if first then [] else [',']

theorem nextKey_quote (gaps : Gap gap) (first : Bool) (s : List Char) :
    nextKey first (comma first ++ (gap ++ '"' :: s)) =
      (readKey ('"' :: s)).map fun (key, rest) => (some key, rest) := by
  have quote : skipSpace (gap ++ '"' :: s) = '"' :: s := by
    rw [skipSpace_gap gaps]
    rfl
  cases first with
  | true =>
    rw [comma, if_pos rfl, List.nil_append, nextKey, quote]
    rfl
  | false =>
    have token : skipSpace (',' :: (gap ++ '"' :: s)) = ',' :: (gap ++ '"' :: s) := rfl
    rw [comma, if_neg Bool.false_ne_true, List.singleton_append, nextKey, token]
    simp [quote]

theorem nextKey_read {key : String} {text : List Char} (gaps : Gap gap)
    (spells : Spells .read key.toList text) (first : Bool) (s : List Char) :
    nextKey first (comma first ++ (gap ++ '"' :: (text ++ '"' :: s))) = .ok (some key, s) := by
  rw [nextKey_quote gaps, readKey_read spells]
  rfl

theorem readField_read {setting : Setting} {text : List Char} (gaps : Gap gap)
    (written : setting.Written text) (stops : Stops rest) (draft : Draft) :
    readField draft setting.field (gap ++ (text ++ rest)) = .ok (draft.set setting, rest) := by
  obtain ⟨found, shows, scalar, puts⟩ := written.shows
  obtain ⟨behind, reads, ends⟩ := shows.found stops
  rw [readField, skipSpace_gap gaps, shows.derives.start, reads, ends scalar, ofText, ok_bind]
  simp only [puts, ofValues, ok_bind]
  rfl

theorem Field.ofKey?_self (field : Field) : Field.ofKey? field.key = some field := by
  cases field <;> decide

theorem ofKey?_key (setting : Setting) : Field.ofKey? setting.key = some setting.field := by
  have same : setting.key = setting.field.key := by cases setting <;> rfl
  rw [same, Field.ofKey?_self]

theorem ofKey?_of_unknown {key : String} (unknown : key ∉ keys) : Field.ofKey? key = none := by
  rw [Field.ofKey?, List.find?_eq_none]
  intro field member
  have known : field.key ∈ keys := by cases field <;> decide
  rw [beq_iff_eq]
  rintro rfl
  exact unknown known

/-- None of the settings is for a field that the draft has, or for one that another is for. -/
structure Fresh (draft : Draft) (settings : List Setting) : Prop where
  once : (settings.map Setting.field).Nodup
  absent : ∀ setting ∈ settings, draft.has setting.field = false

theorem readMember_read {key : String} {settings : List Setting} {between ahead text : List Char}
    (gap₁ : Gap between) (gap₂ : Gap ahead) (sets : Sets key text settings) (stops : Stops rest)
    {draft : Draft} (absent : ∀ setting ∈ settings, draft.has setting.field = false) :
    readMember draft key (between ++ ':' :: (ahead ++ (text ++ rest))) =
      .ok (settings.foldl Draft.set draft, rest) := by
  cases sets with
  | setting written =>
    have new := absent _ List.mem_cons_self
    simp only [readMember, ofKey?_key, new, Bool.false_eq_true, if_false, skipColon_read gap₁,
      ofText, ok_bind, readField_read gap₂ written stops]
    rfl
  | foreign unknown value =>
    simp only [readMember, ofKey?_of_unknown unknown, skipColon_read gap₁, ofText, ok_bind,
      value.skip gap₂ stops]
    rfl

theorem readMembers_key {first : Bool} {key : String} {s behind : List Char}
    (next : nextKey first s = .ok (some key, behind)) (draft : Draft) :
    readMembers draft first s =
      readMember draft key behind >>= fun (draft, rest) => readMembers draft false rest := by
  rw [readMembers, next]
  dsimp only
  cases readMember draft key behind <;> rfl

theorem readMembers_end (draft : Draft) (first : Bool) (s : List Char) :
    readMembers draft first ('\x7d' :: s) = .ok (draft, s) := by
  have ends : nextKey first ('\x7d' :: s) = .ok (none, s) := rfl
  rw [readMembers, ends]

theorem readMembers_gap (gaps : Gap gap) (draft : Draft) (first : Bool) (s : List Char) :
    readMembers draft first (gap ++ s) = readMembers draft first s := by
  rw [readMembers, nextKey, skipSpace_gap gaps, ← nextKey, ← readMembers]

theorem Member.read {settings : List Setting} {text : List Char} (member : Member settings text)
    (stops : Stops rest) {draft : Draft}
    (absent : ∀ setting ∈ settings, draft.has setting.field = false) (first : Bool) :
    readMembers draft first (comma first ++ (text ++ rest)) =
      readMembers (settings.foldl Draft.set draft) false rest := by
  obtain ⟨gap, spells, gap₁, gap₂, sets, gap₃⟩ := member
  simp only [List.append_assoc, List.cons_append]
  rw [readMembers_key (nextKey_read gap spells first _),
    readMember_read gap₁ gap₂ sets (Json.stops_gap gap₃ stops) absent, ok_bind]
  exact readMembers_gap gap₃ _ false rest

theorem absent_foldl {settings : List Setting} {setting : Setting} {draft : Draft}
    (absent : draft.has setting.field = false)
    (others : ∀ other ∈ settings, setting.field ≠ other.field) :
    (settings.foldl Draft.set draft).has setting.field = false := by
  induction settings generalizing draft with
  | nil => exact absent
  | cons other rest ih =>
    obtain ⟨first, others⟩ := List.forall_mem_cons.1 others
    exact ih ((Draft.has_set first draft).trans absent) others

/-- Members set what they say, as long as no field is set twice. -/
theorem Members.read {settings : List Setting} {text : List Char}
    (members : Members settings text) {draft : Draft} (fresh : Fresh draft settings)
    (first : Bool) (behind : List Char) :
    readMembers draft first (comma first ++ (text ++ '\x7d' :: behind)) =
      .ok (settings.foldl Draft.set draft, behind) := by
  induction members generalizing draft first with
  | last member =>
    have stops : Stops ('\x7d' :: behind) := Json.stops_closing .object behind
    rw [member.read stops fresh.absent, readMembers_end]
  | @more settings others text rest member members ih =>
    obtain ⟨once, absent⟩ := fresh
    rw [List.map_append, List.nodup_append] at once
    obtain ⟨-, once, apart⟩ := once
    obtain ⟨before, after⟩ := List.forall_mem_append.1 absent
    have fresh : Fresh (settings.foldl Draft.set draft) others := by
      refine ⟨once, fun setting later => absent_foldl (after setting later) fun other earlier => ?_⟩
      exact (apart _ (List.mem_map_of_mem earlier) _ (List.mem_map_of_mem later)).symm
    rw [List.append_assoc, List.cons_append, member.read (Json.stops_comma _) before,
      List.foldl_append]
    exact ih fresh false

end

namespace Asked

theorem fresh_settings (asked : Asked) {order : List Setting}
    (complete : order.Perm asked.settings) : Fresh {} order := by
  have once : (asked.settings.map Setting.field).Nodup := by
    obtain ⟨target, workers, failFast, poolName⟩ := asked
    cases failFast <;> cases poolName <;> simp [settings, Setting.field]
  refine ⟨((complete.map Setting.field).nodup_iff).2 once, fun setting _ => ?_⟩
  cases setting <;> rfl

theorem foldl_set {asked : Asked} {order : List Setting} (complete : order.Perm asked.settings) :
    order.foldl Draft.set {} = asked.settings.foldl Draft.set {} := by
  have once := (asked.fresh_settings complete).once
  refine complete.foldl_eq' (fun setting here setting' here' draft => ?_) _
  by_cases same : setting.field = setting'.field
  · rw [List.inj_on_of_nodup_map once here here' same]
  · exact (Draft.set_comm same draft)

theorem finish_settings (asked : Asked) :
    (asked.settings.foldl Draft.set {}).finish = .ok asked.request := by
  obtain ⟨target, workers, failFast, poolName⟩ := asked
  cases failFast <;> cases poolName <;> rfl

theorem readEnd_read {gap : List Char} (gaps : Gap gap) : readEnd gap = .ok () := by
  have nothing := skipSpace_gap gaps []
  rw [List.append_nil] at nothing
  rw [readEnd, nothing]
  rfl

theorem Renders.read {asked : Asked} {text : String} (renders : asked.Renders text) :
    Request.read text = .ok asked.request := by
  obtain @⟨order, before, text, behind, gap, members, complete, gap₁⟩ := renders
  have brace : skipSpace (before ++ '\x7b' :: (text ++ '\x7d' :: behind)) =
      '\x7b' :: (text ++ '\x7d' :: behind) := by
    rw [skipSpace_gap gap]
    rfl
  have reads : readMembers {} true (text ++ '\x7d' :: behind) =
      .ok (order.foldl Draft.set {}, behind) :=
    members.read (asked.fresh_settings complete) true behind
  rw [Request.read, String.toList_ofList, readChars, brace]
  simp only [reads, ok_bind, foldl_set complete, finish_settings, ofValues, readEnd_read gap₁,
    ofText]
  rfl

end Asked

namespace Setting

def value : Setting → List Char
  | target count | workers count => Nat.toDigits 10 count.toNat
  | failFast value => if value then "true".toList else "false".toList
  | poolName none => "null".toList
  | poolName (some name) => '"' :: (name.toList.flatMap Json.writeChar ++ ['"'])

def write (setting : Setting) : List Char :=
  '"' :: (setting.key.toList.flatMap Json.writeChar ++ '"' :: ':' :: setting.value)

theorem written_value (setting : Setting) : setting.Written setting.value := by
  cases setting with
  | target count => exact .target count
  | workers count => exact .workers count
  | failFast value => exact .flag value
  | poolName name =>
    cases name with
    | none => exact .unnamed
    | some name => exact .named (Json.spells_written name.toList)

theorem member_write (setting : Setting) : Member [setting] setting.write := by
  have none : Gap [] := fun _ member => by cases member
  have member := Member.mk none (Json.spells_written setting.key.toList) none none
    (.setting setting.written_value) none
  simpa [write] using member

end Setting

namespace Asked

def write (asked : Asked) : String :=
  String.ofList ('\x7b' :: ([','].intercalate (asked.settings.map Setting.write) ++ ['\x7d']))

theorem members_write (setting : Setting) (settings : List Setting) :
    Members (setting :: settings)
      ([','].intercalate ((setting :: settings).map Setting.write)) := by
  induction settings generalizing setting with
  | nil => simpa using Members.last setting.member_write
  | cons other settings ih => simpa using Members.more setting.member_write (ih other)

theorem renders_write (asked : Asked) : asked.Renders asked.write := by
  have none : Gap [] := fun _ member => by cases member
  exact .mk none (members_write _ _) (.refl _) none

example : (⟨2, 1, none, some none⟩ : Asked).write =
    "\x7b\"targetCount\":2,\"workerCount\":1,\"poolName\":null\x7d" := by
  decide

end Asked

/-- Reading a request undoes writing it. Everything that can be asked for can be written, and
however a text asks for it, with its members in any order and among others, with white space between
all tokens and escapes in all strings, reading the text gives the request that was asked for: the
fields that are left out have their defaults, and there is no handler. -/
theorem reading_undoes_writing (asked : Asked) :
    asked.Renders asked.write ∧ ∀ text, asked.Renders text → read text = .ok asked.request :=
  ⟨asked.renders_write, fun _ renders => renders.read⟩

/-- A text with its members in another order, among them one that means nothing, with a surrogate
pair for the name and half of one where nobody looks. -/
theorem reading_undoes_writing_scrambled :
    let asked : Asked := ⟨2, 1, none, some (some "😀")⟩
    let text := "\x7b\"eventHandler\" : [1e9, \x7b\"a\":\"\\ud800\"\x7d ]," ++
      "\"pool\\u004eame\":\"\\ud83D\\uDE00\",\n\"workerCount\":1,\"targetCount\":2\x7d "
    asked.Renders text ∧ read text = .ok ⟨2, 1, true, some "😀", none⟩ := by
  intro asked text
  have none : Gap [] := fun _ member => by cases member
  have blank : Gap [' '] := by simp [Gap]
  have line : Gap ['\n'] := by simp [Gap]
  have zero : ('0', 0) ∈ Json.hexDigits := by decide
  have three : ('3', 3) ∈ Json.hexDigits := by decide
  have four : ('4', 4) ∈ Json.hexDigits := by decide
  have eight : ('8', 8) ∈ Json.hexDigits := by decide
  have d : ('d', 13) ∈ Json.hexDigits := by decide
  have D : ('D', 13) ∈ Json.hexDigits := by decide
  have e : ('e', 14) ∈ Json.hexDigits := by decide
  have E : ('E', 14) ∈ Json.hexDigits := by decide
  have half : Json.Quad 0xD800 ['d', '8', '0', '0'] := Json.quad_of_digits d eight zero zero rfl
  have high : Json.Quad 0xD83D ['d', '8', '3', 'D'] := Json.quad_of_digits d eight three D rfl
  have low : Json.Quad 0xDE00 ['D', 'E', '0', '0'] := Json.quad_of_digits D E zero zero rfl
  have letter : Json.Quad 'N'.toNat ['0', '0', '4', 'e'] :=
    Json.quad_of_digits zero zero four e rfl
  have object : Derives .value _ := .object (.last (.member none
    (.cons (.plain (by decide) (by decide) (by decide)) .nil : Spells .skip ['a'] ['a'])
    none none (.text (.cons (.loose half) .nil)) none))
  have number : Derives .value _ := .number (@Json.Numeral.mk [] ['1'] [] ['e', '9'] (by decide)
    (.digits (by simp) (by decide)) .absent
    (@Json.Exponent.present 'e' [] ['9'] (by decide) (by decide) ⟨by simp, by simp⟩))
  have foreign : Member [] _ := .mk none (Json.spells_written "eventHandler".toList) blank blank
    (.foreign (by decide) (.array (.more (.element none number none)
      (.last (.element blank object blank))))) none
  have plain (cs : List Char) := Json.spells_written cs
  have escaped : Spells .read "poolName".toList _ :=
    .cons (.plain (c := 'p') (by decide) (by decide) (by decide)) <|
    .cons (.plain (c := 'o') (by decide) (by decide) (by decide)) <|
    .cons (.plain (c := 'o') (by decide) (by decide) (by decide)) <|
    .cons (.plain (c := 'l') (by decide) (by decide) (by decide)) <|
    .cons (.unit (c := 'N') letter) <|
    .cons (.plain (c := 'a') (by decide) (by decide) (by decide)) <|
    .cons (.plain (c := 'm') (by decide) (by decide) (by decide)) <|
    .cons (.plain (c := 'e') (by decide) (by decide) (by decide)) .nil
  have face : Spells .read "😀".toList _ := .cons (.pair (c := '😀') (by decide) high low) .nil
  have members : Members _ _ := .more foreign (.more (.mk none escaped none none
    (.setting (.named face)) none) (.more (.mk line (plain "workerCount".toList) none none
    (.setting (.workers 1)) none) (.last (.mk none (plain "targetCount".toList) none none
    (.setting (.target 2)) none))))
  have renders : asked.Renders text := by
    refine cast (congrArg asked.Renders ?_) (.mk none members (by decide) blank)
    decide +kernel
  exact ⟨renders, (reading_undoes_writing asked).2 text renders⟩

end Preconnect.Request
