import TabletDrain.Proofs.Alias
import TabletDrain.Proofs.Topology.Documents

/-! Reading the map of the tablets of a shard. The cells are asked one after another, and behind each
cell the tablets that it lists; the first failure is the last that is heard of the server. Where there is
none, the map has every tablet that was read, under the alias that its own record gives. -/
namespace TabletDrain.Topology

open Json

variable {α β γ : Type} {server : Server}

/-- A path that was asked for, and the answer. -/
structure Asked where
  path : String
  answer : Answer

/-- Asking for paths one after another. What has no address is not sent, and is as good as unreachable. -/
inductive Asks (server : Server) : Session → List Asked → Session → Prop
  | nothing (session : Session) : Asks server session [] session
  | sent {before after : Session} {path : String} {target fragment : List Char} {later : List Asked}
      (address : Http.targetForm? (server.root ++ path).toList = some (target, fragment))
      (rest : Asks server
        ⟨before.made ++ [(⟨.get, String.ofList target, none⟩,
          (server.answers before.made.length).hasArrived)]⟩ later after) :
      Asks server before (⟨path, server.answers before.made.length⟩ :: later) after
  | unsent {before after : Session} {path : String} {later : List Asked}
      (noAddress : Http.targetForm? (server.root ++ path).toList = none)
      (rest : Asks server before later after) :
      Asks server before (⟨path, .unreachable⟩ :: later) after

/-- What comes of an answer, where `Fits` says which documents are the record that is wanted. -/
inductive Comes (server : Server) (path : String) (Fits : Json → α → Prop) :
    Answer → Except Fault α → Prop
  | lost {answer : Answer} (unanswered : answer = .closed ∨ answer = .unreachable) :
      Comes server path Fits answer (.error (readFailed path (": " ++ noAnswer server path)))
  | refused {code : Nat} {body : String} (status : ¬(200 ≤ code ∧ code < 300)) :
      Comes server path Fits (.answered code body)
        (.error (readFailed path (" returned HTTP " ++ Http.statusText code)))
  | misfit {code : Nat} {body : String} (status : 200 ≤ code ∧ code < 300)
      (unfit : ∀ document record, Json.parse? body = some document → ¬Fits document record) :
      Comes server path Fits (.answered code body) (.error (readFailed path (": " ++ unreadable)))
  | fits {code : Nat} {body : String} {document : Json} {record : α} (status : 200 ≤ code ∧ code < 300)
      (parsed : Json.parse? body = some document) (fits : Fits document record) :
      Comes server path Fits (.answered code body) (.ok record)

/-- The role that a record states: by number, by name, or not at all. -/
inductive Stated : Json → Role → Prop
  | number {n : Int} (small : n < signedBound) : Stated (.num n) (Role.ofCode n)
  | large {n : Int} (large : signedBound ≤ n) : Stated (.num n) .unknown
  | named {text : String} {role : Role} (known : Role.ofName? (text.map Char.toUpper) = some role) :
      Stated (.str text) role
  | unstated {document : Json} (noNumber : ∀ n, document ≠ .num n) (noName : ∀ text, document ≠ .str text) :
      Stated document .unknown

/-- Asking for a tablet by its name. The record has a name of its own. -/
inductive Fetches (server : Server) (name : Alias) : List Asked → Except Fault Tablet → Prop
  | failed {answer : Answer} {fault : Fault}
      (comes : Comes server (tabletPath name) IsTablet answer (.error fault)) :
      Fetches server name [⟨tabletPath name, answer⟩] (.error fault)
  | untyped {answer : Answer} {raw : RawTablet} {text : String}
      (comes : Comes server (tabletPath name) IsTablet answer (.ok raw)) (typed : raw.role = .str text)
      (unknown : Role.ofName? (text.map Char.toUpper) = none) :
      Fetches server name [⟨tabletPath name, answer⟩]
        (.error (.topology ("unknown tablet type " ++ Text.quoted (text.map Char.toUpper))))
  | fetched {answer : Answer} {raw : RawTablet} {role : Role}
      (comes : Comes server (tabletPath name) IsTablet answer (.ok raw)) (stated : Stated raw.role role) :
      Fetches server name [⟨tabletPath name, answer⟩]
        (.ok ⟨raw.name, role, raw.keyspace, raw.shard, raw.hostname⟩)

/-- The turn of an item: what was asked, and what came of it. -/
structure Turn (α β : Type) where
  item : α
  asked : List Asked
  value : β

/-- Items in turn. When one fails, no more is asked for it nor for those left, and nothing comes of those
before it either. -/
inductive InTurn (goes : α → List Asked → Except Fault β → Prop) :
    List α → List Asked → Except Fault (List β) → Prop
  | through (turns : List (Turn α β)) (went : ∀ turn ∈ turns, goes turn.item turn.asked (.ok turn.value)) :
      InTurn goes (turns.map Turn.item) (turns.flatMap Turn.asked) (.ok (turns.map Turn.value))
  | stops (turns : List (Turn α β)) {item : α} {left : List α} {asked : List Asked} {fault : Fault}
      (went : ∀ turn ∈ turns, goes turn.item turn.asked (.ok turn.value))
      (fails : goes item asked (.error fault)) :
      InTurn goes (turns.map Turn.item ++ item :: left) (turns.flatMap Turn.asked ++ asked) (.error fault)

/-- Asking a cell for its tablets: first for their names, then for each. -/
inductive ReadsCell (server : Server) (keyspace shard cell : String) :
    List Asked → Except Fault (List Tablet) → Prop
  | unlisted {answer : Answer} {fault : Fault}
      (comes : Comes server (tabletsPath keyspace shard cell) ListsAliases answer (.error fault)) :
      ReadsCell server keyspace shard cell [⟨tabletsPath keyspace shard cell, answer⟩] (.error fault)
  | listed {answer : Answer} {names : List Alias} {asked : List Asked} {outcome : Except Fault (List Tablet)}
      (comes : Comes server (tabletsPath keyspace shard cell) ListsAliases answer (.ok names))
      (fetched : InTurn (Fetches server) names asked outcome) :
      ReadsCell server keyspace shard cell (⟨tabletsPath keyspace shard cell, answer⟩ :: asked) outcome

theorem Asks.append {before middle after : Session} {asked asked' : List Asked}
    (first : Asks server before asked middle) (rest : Asks server middle asked' after) :
    Asks server before (asked ++ asked') after := by
  induction first with
  | nothing => exact rest
  | sent address _ ih => exact .sent address (ih rest)
  | unsent noAddress _ ih => exact .unsent noAddress (ih rest)

theorem InTurn.cons {goes : α → List Asked → Except Fault β → Prop} {item : α} {rest : List α}
    {asked asked' : List Asked} {value : β} {outcome : Except Fault (List β)}
    (first : goes item asked (.ok value)) (others : InTurn goes rest asked' outcome) :
    InTurn goes (item :: rest) (asked ++ asked') (outcome.map (value :: ·)) := by
  cases others with
  | through turns went =>
    exact .through (⟨item, asked, value⟩ :: turns) (List.forall_mem_cons.mpr ⟨first, went⟩)
  | stops turns went fails =>
    rw [← List.append_assoc]
    exact .stops (⟨item, asked, value⟩ :: turns) (List.forall_mem_cons.mpr ⟨first, went⟩) fails

/-- What an exchange asks for, and what comes of it, from wherever it begins. -/
def Does (server : Server) (part : Exchange α) (goes : List Asked → Except Fault α → Prop) : Prop :=
  ∀ before, ∃ asked, Asks server before asked (part before).2 ∧ goes asked (part before).1

theorem Does.pure {goes : List Asked → Except Fault α → Prop} {a : α} (done : goes [] (.ok a)) :
    Does server (Pure.pure a) goes := fun before => ⟨[], .nothing before, done⟩

theorem Does.fail {goes : List Asked → Except Fault α → Prop} {fault : Fault}
    (failed : goes [] (.error fault)) : Does server (Exchange.fail fault) goes :=
  fun before => ⟨[], .nothing before, failed⟩

theorem Does.bind {first : Exchange α} {next : α → Exchange β}
    {goes : List Asked → Except Fault α → Prop} {whole : List Asked → Except Fault β → Prop}
    (continues : α → List Asked → Except Fault β → Prop)
    (begins : Does server first goes) (goesOn : ∀ a, Does server (next a) (continues a))
    (stopped : ∀ {asked fault}, goes asked (.error fault) → whole asked (.error fault))
    (through : ∀ {asked a asked' outcome}, goes asked (.ok a) → continues a asked' outcome →
      whole (asked ++ asked') outcome) :
    Does server (first >>= next) whole := by
  intro before
  obtain ⟨asked, asks, went⟩ := begins before
  rcases reached : first before with ⟨fault | a, middle⟩
  · rw [reached] at asks went
    rw [Exchange.bind_of_error next reached]
    exact ⟨asked, asks, stopped went⟩
  · rw [reached] at asks went
    rw [Exchange.bind_of_ok next reached]
    obtain ⟨asked', asks', went'⟩ := goesOn a middle
    exact ⟨asked ++ asked', asks.append asks', through went went'⟩

theorem request_does (path : String) : Does server (request server .get path none) fun asked outcome =>
    ∃ answer, asked = [⟨path, answer⟩] ∧ outcome = .ok answer := by
  intro before
  unfold request
  cases address : Http.targetForm? (server.root ++ path).toList with
  | none => exact ⟨_, .unsent address (.nothing _), _, rfl, rfl⟩
  | some form => exact ⟨_, .sent address (.nothing _), _, rfl, rfl⟩

section Reading

variable {read : Json → Option α} {Fits : Json → α → Prop}
  (reads : ∀ {document record}, read document = some record ↔ Fits document record)

include reads

theorem recordOf_comes (path : String) (answer : Answer) :
    Comes server path Fits answer (recordOf server path read answer) := by
  cases answer with
  | closed => exact .lost (.inl rfl)
  | unreachable => exact .lost (.inr rfl)
  | answered code body =>
    have status : Http.isSuccess code = true ↔ 200 ≤ code ∧ code < 300 := by
      rw [Http.isSuccess, Bool.and_eq_true, decide_eq_true_eq, decide_eq_true_eq]
    rw [recordOf]
    by_cases success : Http.isSuccess code = true
    · rw [if_pos success]
      cases found : (Json.parse? body).bind read with
      | none =>
        refine .misfit (status.mp success) fun document record parsed fits => ?_
        rw [parsed, Option.bind_some, reads.mpr fits] at found
        cases found
      | some record =>
        obtain ⟨document, parsed, found⟩ := Option.bind_eq_some_iff.mp found
        exact .fits (status.mp success) parsed (reads.mp found)
    · rw [if_neg success]
      exact .refused (mt status.mpr success)

theorem fetch_does (path : String) :
    Does server (fetch server path read) fun asked outcome =>
      ∃ answer, asked = [⟨path, answer⟩] ∧ Comes server path Fits answer outcome := by
  refine .bind (fun answer asked outcome => asked = [] ∧ outcome = recordOf server path read answer)
    (request_does path) (fun answer => ?_) ?_ ?_
  · split <;> rename_i came
    · exact .pure ⟨rfl, came.symm⟩
    · exact .fail ⟨rfl, came.symm⟩
  · rintro _ _ ⟨_, _, ⟨⟩⟩
  · rintro _ answer _ _ ⟨_, rfl, ⟨⟩⟩ ⟨rfl, rfl⟩
    exact ⟨answer, rfl, recordOf_comes reads path answer⟩

end Reading

theorem roleOfJson_of_error {document : Json} {fault : Fault} (failed : roleOfJson document = .error fault) :
    ∃ text, document = .str text ∧ Role.ofName? (text.map Char.toUpper) = none ∧
      fault = .topology ("unknown tablet type " ++ Text.quoted (text.map Char.toUpper)) := by
  unfold roleOfJson at failed
  split at failed
  · cases failed
  · rename_i text
    unfold Role.parse at failed
    dsimp only at failed
    split at failed
    · cases failed
    · rename_i unknown
      exact ⟨text, rfl, unknown, (Except.error.inj failed).symm⟩
  · cases failed

theorem stated_of_roleOfJson {document : Json} {role : Role} (read : roleOfJson document = .ok role) :
    Stated document role := by
  unfold roleOfJson at read
  split at read
  · rename_i n
    cases read
    split
    · rename_i small
      exact .number small
    · rename_i large
      exact .large (not_lt.mp large)
  · rename_i text
    unfold Role.parse at read
    dsimp only at read
    split at read
    · rename_i known
      exact .named (known.trans (congrArg some (Except.ok.inj read)))
    · cases read
  · rename_i noNumber noName
    cases read
    exact .unstated noNumber noName

theorem getTablet_does (name : Alias) : Does server (getTablet server name) (Fetches server name) := by
  refine .bind (fun raw asked outcome => asked = [] ∧ outcome = raw.tablet)
    (fetch_does tabletOfJson_eq_some_iff (tabletPath name)) (fun raw => ?_) ?_ ?_
  · split <;> rename_i read
    · exact .pure ⟨rfl, read.symm⟩
    · exact .fail ⟨rfl, read.symm⟩
  · rintro _ _ ⟨answer, rfl, comes⟩
    exact .failed comes
  · rintro _ raw _ _ ⟨answer, rfl, comes⟩ ⟨rfl, rfl⟩
    unfold RawTablet.tablet
    split
    · rename_i read
      exact .fetched comes (stated_of_roleOfJson read)
    · rename_i failed
      obtain ⟨text, typed, unknown, rfl⟩ := roleOfJson_of_error failed
      exact .untyped comes typed unknown

/-- Adding what comes of a part to a state. -/
def Added (add : γ → β → γ) (state : γ) (goes : List Asked → Except Fault β → Prop)
    (asked : List Asked) (outcome : Except Fault γ) : Prop :=
  ∃ came, goes asked came ∧ outcome = came.map (add state)

/-- A loop that takes its items in turn, where each of them adds what comes of it to a state. -/
theorem does_inTurn {goes : α → List Asked → Except Fault β → Prop} {add : γ → β → γ}
    {loop : γ → List α → Exchange γ} (step : γ → α → Exchange γ)
    (nil : ∀ state, loop state [] = Pure.pure state)
    (cons : ∀ state item rest, loop state (item :: rest) = step state item >>= fun state => loop state rest)
    (does : ∀ state item, Does server (step state item) (Added add state (goes item)))
    (items : List α) (state : γ) :
    Does server (loop state items) (Added (List.foldl add) state (InTurn goes items)) := by
  induction items generalizing state with
  | nil =>
    rw [nil]
    exact .pure ⟨.ok [], .through [] (List.forall_mem_nil _), rfl⟩
  | cons item rest ih =>
    rw [cons]
    refine .bind _ (does state item) ih ?_ ?_
    · rintro asked fault ⟨_ | _, went, same⟩
      · cases same
        exact ⟨.error fault, .stops [] (List.forall_mem_nil _) went, rfl⟩
      · cases same
    · rintro asked reached asked' _ ⟨_ | value, went, same⟩ ⟨came, others, rfl⟩
      · cases same
      · cases same
        refine ⟨came.map (value :: ·), .cons went others, ?_⟩
        cases came <;> rfl

/-- The map with a tablet under the text of its name. -/
def withTablet (tablets : Keyed Tablet) (tablet : Tablet) : Keyed Tablet :=
  tablets.insert tablet.name.text tablet

theorem getTablets_does (names : List Alias) (tablets : Keyed Tablet) :
    Does server (getTablets server tablets names)
      (Added (List.foldl withTablet) tablets (InTurn (Fetches server) names)) := by
  refine does_inTurn (fun tablets name => do
    let tablet ← getTablet server name
    return withTablet tablets tablet) (fun _ => rfl) (fun tablets name rest => ?_)
    (fun tablets name => ?_) names tablets
  · rw [Exchange.bind_assoc]
    rfl
  · refine .bind (fun tablet asked outcome => asked = [] ∧ outcome = .ok (withTablet tablets tablet))
      (getTablet_does name) (fun _ => .pure ⟨rfl, rfl⟩) ?_ ?_
    · exact fun went => ⟨_, went, rfl⟩
    · rintro asked tablet _ _ went ⟨rfl, rfl⟩
      rw [List.append_nil]
      exact ⟨_, went, rfl⟩

theorem getCells_does (keyspace shard : String) (cells : List String) (tablets : Keyed Tablet) :
    Does server (getCells server keyspace shard tablets cells)
      (Added (List.foldl (List.foldl withTablet)) tablets
        (InTurn (ReadsCell server keyspace shard) cells)) := by
  refine does_inTurn (fun tablets cell => do
    let names ← fetch server (tabletsPath keyspace shard cell) (readList aliasOfJson)
    getTablets server tablets names) (fun _ => rfl) (fun tablets cell rest => ?_)
    (fun tablets cell => ?_) cells tablets
  · rw [Exchange.bind_assoc]
    rfl
  · refine .bind _ (fetch_does readList_aliasOfJson_iff (tabletsPath keyspace shard cell))
      (getTablets_does · tablets) ?_ ?_
    · rintro _ fault ⟨answer, rfl, comes⟩
      exact ⟨.error fault, .unlisted comes, rfl⟩
    · rintro _ names asked _ ⟨answer, rfl, comes⟩ ⟨outcome, fetched, rfl⟩
      exact ⟨outcome, .listed comes fetched, rfl⟩

/-- However the server answers, the cells are asked in turn, each for its list and then for the tablets on
it. The first failure ends this and is all that there is; else the map has exactly the tablets that were
read, each under the alias that its record gives, and of those with one alias the last. -/
theorem tablets_read_whole_or_not_at_all (server : Server) (keyspace shard : String) (cells : List String)
    (before : Session) :
    let (result, after) := getTabletMap server keyspace shard cells before
    ∃ asked outcome, Asks server before asked after ∧
      InTurn (ReadsCell server keyspace shard) cells asked outcome ∧
      match outcome with
      | .error fault => result = .error fault
      | .ok read => ∃ map, result = .ok map ∧ ∀ key tablet, map.get? key = some tablet ↔
          ∃ earlier later, read.flatten = earlier ++ tablet :: later ∧ tablet.name.text = key ∧
            ∀ other ∈ later, other.name ≠ tablet.name := by
  obtain ⟨asked, asks, outcome, inTurn, came⟩ := getCells_does keyspace shard cells .empty before
  refine ⟨asked, outcome, asks, inTurn, ?_⟩
  cases outcome with
  | error fault => exact came
  | ok read =>
    have whole : List.foldl (List.foldl withTablet) .empty read = Tablet.index read.flatten := by
      rw [Tablet.index, Keyed.ofList, List.foldl_map, List.foldl_flatten]
      rfl
    exact ⟨_, came, fun key tablet => whole ▸ Tablet.get?_index_eq_some_iff⟩

end TabletDrain.Topology
