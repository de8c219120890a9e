import Signpost.Command
import Signpost.Proofs.Declarations
import Signpost.Proofs.Search
import Signpost.Proofs.Views
/-!
# The commands agree

All three commands load one table and differ only in what they say of it. Either
none of them has a table, and they fail alike, or they speak of the same routes:
`check` counts the entries that `routes` lists, and `match` reports the first of them
that answers (`tasks_agree`).
-/

namespace Signpost.Command

variable {decode : String → Option Manifest} {host : Host} {file text : String}
  {manifest : Manifest} {t : Table}

/-! ## Files -/

/-- A file that can be read, and its text. -/
structure HasText (host : Host) (file text : String) : Prop where
  named : '\x00' ∉ file.toList
  content : ∃ bytes, host.readFile file = .ok bytes ∧ String.fromUTF8? bytes = some text

/-- Why a file has no text: it cannot have its name, it is not there to be read, or its
bytes are no text. -/
inductive Unreadable (host : Host) (file : String) : ReadError → Prop
  | name (nul : '\x00' ∈ file.toList) : Unreadable host file .nulInName
  | refused {cause : ReadError} (named : '\x00' ∉ file.toList)
      (read : host.readFile file = .error cause) : Unreadable host file cause
  | bytes {bytes : ByteArray} (named : '\x00' ∉ file.toList)
      (read : host.readFile file = .ok bytes) (invalid : String.fromUTF8? bytes = none) :
      Unreadable host file .notText

theorem HasText.readText_eq (h : HasText host file text) : host.readText file = .ok text := by
  obtain ⟨bytes, hread, htext⟩ := h.content
  simp [Host.readText, h.named, hread, htext]

theorem Unreadable.readText_eq {cause : ReadError} (h : Unreadable host file cause) :
    host.readText file = .error cause := by
  cases h with
  | name nul => simp [Host.readText, nul]
  | refused named read => simp [Host.readText, named, read]
  | bytes named read invalid => simp [Host.readText, named, read, invalid]

theorem hasText_or_unreadable (host : Host) (file : String) :
    (∃ text, HasText host file text) ∨ ∃ cause, Unreadable host file cause := by
  by_cases hname : '\x00' ∈ file.toList
  · exact .inr ⟨_, .name hname⟩
  · cases hread : host.readFile file with
    | error cause => exact .inr ⟨cause, .refused hname hread⟩
    | ok bytes =>
      cases htext : String.fromUTF8? bytes with
      | none => exact .inr ⟨_, .bytes hname hread htext⟩
      | some text => exact .inl ⟨text, hname, bytes, hread, htext⟩

/-! ## Loading -/

/-- A file with the text of a manifest, and the table that is built of it under the
settings in the variables. -/
structure Loads (decode : String → Option Manifest) (host : Host) (file : String)
    (manifest : Manifest) (t : Table) : Prop where
  text : ∃ text, HasText host file text ∧ decode text = some manifest
  built : (manifest.build (Settings.ofVariables host.lookup)).value = .ok t

/-- Why there is no table: the file has no text, the text is no manifest, or the manifest
does not build. -/
inductive FailsToLoad (decode : String → Option Manifest) (host : Host) (file : String) :
    Failure → Prop
  | unreadable {cause : ReadError} (unreadable : Unreadable host file cause) :
      FailsToLoad decode host file (.unreadableFile file cause)
  | notAManifest {text : String} (hasText : HasText host file text)
      (undecodable : decode text = none) : FailsToLoad decode host file (.notAManifest file)
  | unbuildable {text : String} {manifest : Manifest} {cause : BuildError}
      (hasText : HasText host file text) (decoded : decode text = some manifest)
      (refused : (manifest.build (Settings.ofVariables host.lookup)).value = .error cause) :
      FailsToLoad decode host file (.unbuildable cause)

theorem Loads.loadTable_eq (h : Loads decode host file manifest t) :
    (loadTable decode host file).value = .ok t := by
  obtain ⟨text, htext, hdecode⟩ := h.text
  simp [loadTable, loadManifest, htext.readText_eq, hdecode, h.built]

theorem FailsToLoad.loadTable_eq {e : Failure} (h : FailsToLoad decode host file e) :
    (loadTable decode host file).value = .error e := by
  cases h with
  | unreadable unreadable => simp [loadTable, loadManifest, unreadable.readText_eq]
  | notAManifest hasText undecodable =>
    simp [loadTable, loadManifest, hasText.readText_eq, undecodable]
  | unbuildable hasText decoded refused =>
    simp [loadTable, loadManifest, hasText.readText_eq, decoded, refused]

theorem loads_or_failsToLoad (decode : String → Option Manifest) (host : Host) (file : String) :
    (∃ manifest t, Loads decode host file manifest t) ∨ ∃ e, FailsToLoad decode host file e := by
  obtain ⟨text, htext⟩ | ⟨cause, hcause⟩ := hasText_or_unreadable host file
  · cases hdecode : decode text with
    | none => exact .inr ⟨_, .notAManifest htext hdecode⟩
    | some manifest =>
      cases hbuilt : (manifest.build (Settings.ofVariables host.lookup)).value with
      | error cause => exact .inr ⟨_, .unbuildable htext hdecode hbuilt⟩
      | ok t => exact .inl ⟨manifest, t, ⟨text, htext, hdecode⟩, hbuilt⟩
  · exact .inr ⟨_, .unreadable hcause⟩

/-! ## The table of a manifest -/

theorem Loads.sound (h : Loads decode host file manifest t) : t.Sound :=
  Manifest.sound_of_build h.built

theorem Loads.size_eq (h : Loads decode host file manifest t) :
    t.size = manifest.declarations.length := by
  obtain ⟨_, -, -, hsize⟩ := Manifest.exists_history h.built
  exact hsize

/-! ## Tasks -/

/-- What a task comes to, without what it tells the log. -/
def Task.result (decode : String → Option Manifest) (host : Host) (file : String) (task : Task) :
    Except Failure Outcome := (task.run decode host file).value

/-- Without a table a task fails as the loading does. -/
theorem FailsToLoad.result_eq {e : Failure} (h : FailsToLoad decode host file e) (task : Task) :
    task.result decode host file = .error e := by
  simp only [Task.result, Task.run, h.loadTable_eq]

theorem Loads.result_eq (h : Loads decode host file manifest t) (task : Task) :
    task.result decode host file = task.outcome file t := by
  simp only [Task.result, Task.run, h.loadTable_eq]

/-- A task that always has an outcome fails only without a table. -/
theorem Task.result_eq_error_iff {task : Task}
    (htask : ∀ t, ∃ outcome, task.outcome file t = .ok outcome) {e : Failure} :
    task.result decode host file = .error e ↔ FailsToLoad decode host file e := by
  refine ⟨fun h => ?_, fun h => h.result_eq task⟩
  obtain ⟨manifest, t, hloads⟩ | ⟨e', hfails⟩ := loads_or_failsToLoad decode host file
  · obtain ⟨outcome, ho⟩ := htask t
    rw [hloads.result_eq, ho] at h
    cases h
  · rw [hfails.result_eq] at h
    obtain rfl := Except.error.inj h
    exact hfails

theorem check_eq_error_iff {e : Failure} :
    Task.check.result decode host file = .error e ↔ FailsToLoad decode host file e :=
  Task.result_eq_error_iff fun _ => ⟨_, rfl⟩

theorem routes_eq_error_iff {e : Failure} :
    Task.routes.result decode host file = .error e ↔ FailsToLoad decode host file e :=
  Task.result_eq_error_iff fun _ => ⟨_, rfl⟩

/-- `check` tells how many routes the manifest declares. -/
theorem Loads.check_eq (h : Loads decode host file manifest t) :
    Task.check.result decode host file = .ok ⟨0, "ok: " ++
      toString manifest.declarations.length ++ " route(s) compiled from " ++ file ++ "\n", ""⟩ := by
  rw [h.result_eq, ← h.size_eq]
  rfl

/-- `routes` writes a line with the order and the number of routes, and one for each. -/
theorem Loads.routes_eq (h : Loads decode host file manifest t) :
    Task.routes.result decode host file = .ok ⟨0, String.join
      ((("[routes] order=" ++ t.order.name ++ " count=" ++
          toString manifest.declarations.length) ::
        t.ordered.map fun r =>
          "[route] " ++ r.method.name ++ " " ++ r.pattern.render ++ " -> " ++ r.handler).map
        (· ++ "\n")), ""⟩ := by
  rw [h.result_eq, ← h.size_eq]
  rfl

/-! ## Requests -/

/-- How `match` answers a request when the routes are listed in this order: it fails
when the method is none, tells by the exit code that no route answers, and else reports
the first that does, with all that it binds. -/
structure AnswersFrom (listing : List Route) (request : Request)
    (answer : Except Failure Outcome) : Prop where
  fails_iff : ∀ e, answer = .error e ↔
    isToken (Text.upper request.method) = false ∧ e = .invalidMethod request.method
  unanswered_iff : ∀ method : Method, method.name = Text.upper request.method →
    ((∃ stderr, answer = .ok ⟨1, "", stderr⟩) ↔
      ∀ r ∈ listing, r.method = method → r.pattern.match? request.path = none)
  reports_first : ∀ method : Method, method.name = Text.upper request.method →
    (∃ r ∈ listing, r.method = method ∧ (r.pattern.match? request.path).isSome = true) →
      ∃ hit params, Table.IsFirstListed listing method request.path hit ∧
        hit.bindings.Shows params ∧
        answer = .ok ⟨0, (Json.object [("method", .text method.name),
          ("handler", .text hit.route.handler), ("template", .text hit.route.pattern.template),
          ("params", .object params)]).pretty ++ "\n", ""⟩

section Request

variable {request : Request} {method : Method}

/-- With a table, a request fails for its method only. -/
theorem Loads.resolve_eq_error_iff (h : Loads decode host file manifest t) {e : Failure} :
    (Task.resolve request).result decode host file = .error e ↔
      isToken (Text.upper request.method) = false ∧ e = .invalidMethod request.method := by
  rw [← Method.ofAnyCase?_eq_none_iff, h.result_eq]
  cases hm : Method.ofAnyCase? request.method with
  | none => simp [Task.outcome, hm, eq_comm]
  | some method => simp [Task.outcome, hm]

theorem Loads.resolve_eq_ok (h : Loads decode host file manifest t)
    (hm : method.name = Text.upper request.method) :
    (Task.resolve request).result decode host file =
      .ok (resolveOutcome method request.path t) := by
  rw [h.result_eq, Task.outcome, Method.ofAnyCase?_eq_some_iff.2 hm]

/-- A request without an answer is told by the exit code, and shows nothing. -/
theorem exists_resolveOutcome_eq_iff {path : String} (hs : t.Sound) :
    (∃ stderr, resolveOutcome method path t = ⟨1, "", stderr⟩) ↔
      ∀ r ∈ t.ordered, r.method = method → r.pattern.match? path = none := by
  rw [← hs.route?_eq_none_iff]
  cases hf : t.route? method path with
  | none => simp [resolveOutcome, hf]
  | some hit => simp [resolveOutcome, hf]

/-- A request that a listed route answers is told the first one that does. -/
theorem exists_resolveOutcome_eq {path : String} (hs : t.Sound)
    (hr : ∃ r ∈ t.ordered, r.method = method ∧ (r.pattern.match? path).isSome = true) :
    ∃ hit, Table.IsFirstListed t.ordered method path hit ∧
      resolveOutcome method path t = ⟨0, (report method hit).pretty ++ "\n", ""⟩ := by
  cases hf : t.route? method path with
  | none =>
    obtain ⟨r, hr, hm, hp⟩ := hr
    rw [hs.route?_eq_none_iff.1 hf r hr hm] at hp
    cases hp
  | some hit => exact ⟨hit, hs.route?_eq_some_iff.1 hf, by simp only [resolveOutcome, hf]⟩

/-- With a table, a request is answered from its listing. -/
theorem Loads.answersFrom_ordered (h : Loads decode host file manifest t) :
    AnswersFrom t.ordered request ((Task.resolve request).result decode host file) where
  fails_iff _ := h.resolve_eq_error_iff
  unanswered_iff method hm := by
    rw [h.resolve_eq_ok hm]
    simpa using exists_resolveOutcome_eq_iff h.sound
  reports_first method hm hr := by
    obtain ⟨hit, hfirst, ho⟩ := exists_resolveOutcome_eq h.sound hr
    obtain ⟨params, hparams, hshows⟩ := hit.bindings.exists_toJson
    refine ⟨hit, params, hfirst, hshows, ?_⟩
    rw [h.resolve_eq_ok hm, ho, report, hparams]
    rfl

end Request

/-! ## Main theorem -/

/-- `check` and `routes` succeed together, and when they fail all three commands fail with
one error, that of the loading. When they succeed they speak of the table of the manifest in
the file: of each declaration a route is made, `check` counts the declarations, `routes`
lists the routes with one entry for each, and `match` answers from that listing. -/
theorem tasks_agree (decode : String → Option Manifest) (host : Host) (file : String) :
    ((∃ outcome, Task.check.result decode host file = .ok outcome) ↔
      ∃ outcome, Task.routes.result decode host file = .ok outcome) ∧
    (∀ e, Task.check.result decode host file = .error e ↔
      Task.routes.result decode host file = .error e) ∧
    (∀ e, Task.check.result decode host file = .error e ↔ FailsToLoad decode host file e) ∧
    (∀ e, Task.check.result decode host file = .error e →
      ∀ request, (Task.resolve request).result decode host file = .error e) ∧
    ∀ outcome, Task.check.result decode host file = .ok outcome →
      ∃ manifest t, Loads decode host file manifest t ∧
        List.Forall₂ Declaration.Makes manifest.declarations t.routes ∧
        t.ordered.Perm t.routes ∧
        t.ordered.length = manifest.declarations.length ∧
        outcome = ⟨0, "ok: " ++ toString manifest.declarations.length ++
          " route(s) compiled from " ++ file ++ "\n", ""⟩ ∧
        Task.routes.result decode host file = .ok ⟨0, String.join
          ((("[routes] order=" ++ t.order.name ++ " count=" ++
              toString manifest.declarations.length) ::
            t.ordered.map fun r =>
              "[route] " ++ r.method.name ++ " " ++ r.pattern.render ++ " -> " ++ r.handler).map
            (· ++ "\n")), ""⟩ ∧
        ∀ request,
          AnswersFrom t.ordered request ((Task.resolve request).result decode host file) := by
  refine ⟨?_, fun e => check_eq_error_iff.trans routes_eq_error_iff.symm,
    fun e => check_eq_error_iff, fun e h request => (check_eq_error_iff.1 h).result_eq _,
    fun outcome hcheck => ?_⟩
  -- Both `check` and `routes` have something to say of any table, so the loading decides.
  · obtain ⟨manifest, t, hloads⟩ | ⟨e, hfails⟩ := loads_or_failsToLoad decode host file
    · exact iff_of_true ⟨_, hloads.check_eq⟩ ⟨_, hloads.routes_eq⟩
    · simp only [hfails.result_eq]
  · obtain ⟨manifest, t, hloads⟩ | ⟨e, hfails⟩ := loads_or_failsToLoad decode host file
    · rw [hloads.check_eq] at hcheck
      obtain rfl := Except.ok.inj hcheck
      exact ⟨manifest, t, hloads, Manifest.forall₂_makes_of_build hloads.built,
        hloads.sound.perm, hloads.sound.perm.length_eq.trans hloads.size_eq, rfl,
        hloads.routes_eq, fun request => hloads.answersFrom_ordered⟩
    · rw [hfails.result_eq] at hcheck
      cases hcheck

/-- Two routes; the second has more literals, and the method that stands for none. -/
def usersText : String :=
  "[[routes]]\nmethod = \"get\"\npath = \"/users/\x7bid:int\x7d/\x7btab\x7d\"\n" ++
    "handler = \"by number\"\n\n" ++
    "[[routes]]\npath = \"users/me/\x7btab\x7d\"\nhandler = \"myself\"\n"

/-- A host with that text in its one file, and no variables. -/
def usersHost : Host :=
  ⟨fun file => if file = "routes.toml" then .ok usersText.toUTF8 else .error .notFound,
    fun _ => none⟩

/-- Without a file every request fails. With it, `check` counts two routes, `routes` lists
both, the one with more literals first, and `match` reports a route with a number and a text,
or none. -/
theorem users_tasks_agree :
    (∀ request, (Task.resolve request).result Manifest.parse? usersHost "other.toml" =
      .error (.unreadableFile "other.toml" .notFound)) ∧
    Task.check.result Manifest.parse? usersHost "routes.toml" =
      .ok ⟨0, "ok: 2 route(s) compiled from routes.toml\n", ""⟩ ∧
    (∃ manifest t, Loads Manifest.parse? usersHost "routes.toml" manifest t ∧
      t.ordered.length = manifest.declarations.length ∧
      AnswersFrom t.ordered ⟨"get", "/users/7/posts"⟩
        ((Task.resolve ⟨"get", "/users/7/posts"⟩).result Manifest.parse? usersHost
          "routes.toml")) ∧
    Task.routes.result Manifest.parse? usersHost "routes.toml" =
      .ok ⟨0, "[routes] order=specificity count=2\n" ++
        "[route] GET users/me/\x7btab\x7d -> myself\n" ++
        "[route] GET users/\x7bid:int\x7d/\x7btab\x7d -> by number\n", ""⟩ ∧
    (Task.resolve ⟨"get", "/users/7/posts"⟩).result Manifest.parse? usersHost "routes.toml" =
      .ok ⟨0, "\x7b\n  \"method\": \"GET\",\n  \"handler\": \"by number\",\n" ++
        "  \"template\": \"/users/\x7bid:int\x7d/\x7btab\x7d\",\n" ++
        "  \"params\": \x7b\n    \"id\": 7,\n    \"tab\": \"posts\"\n  \x7d\n\x7d\n", ""⟩ ∧
    (Task.resolve ⟨"get", "/users/me"⟩).result Manifest.parse? usersHost "routes.toml" =
      .ok ⟨1, "", "no match: GET /users/me\n"⟩ := by
  have hother : Task.check.result Manifest.parse? usersHost "other.toml" =
      .error (.unreadableFile "other.toml" .notFound) := by decide
  have hcheck : Task.check.result Manifest.parse? usersHost "routes.toml" =
      .ok ⟨0, "ok: 2 route(s) compiled from routes.toml\n", ""⟩ := by decide +kernel
  obtain ⟨-, -, -, hfail, -⟩ := tasks_agree Manifest.parse? usersHost "other.toml"
  obtain ⟨-, -, -, -, hspeak⟩ := tasks_agree Manifest.parse? usersHost "routes.toml"
  obtain ⟨manifest, t, hloads, -, -, hcount, -, -, hanswers⟩ := hspeak _ hcheck
  refine ⟨hfail _ hother, hcheck, ⟨manifest, t, hloads, hcount, hanswers _⟩, ?_⟩
  -- What is left is text that the tasks write, so they are carried out.
  decide +kernel

end Signpost.Command
