import HostingService.Hosting.Requests
import HostingService.Program.Isolation

/-! Requests statement by statement, on a database that shows them what is committed. -/

namespace HostingService

open Program Text Storage

def Statement.written : ∀ β, Statement β → Option Change
  | _, .execute change => some change
  | _, _ => none

/-- The database is under transactions; the files, the cache and the clock are not. -/
def database (settings : Settings) : Tables Statement Error World Db Change where
  handle := Statement.handle settings
  get := World.db
  put db world := { world with db }
  written := Statement.written
  apply := Change.apply

abbrev SessionStatement := SessionCall Statement Change

abbrev Session := Prog SessionStatement Error

def Service.session (settings : Settings) {α : Type} : Service α → Session α
  | .ret value => .ret value
  | .raise error => .raise error
  | .call (.autocommit statement) next =>
    .call (.autocommit statement) fun answer => Service.session settings (next answer)
  | .call (.atomic body) next =>
    (body.transaction (database settings)).attempt fun result => Service.session settings (next result)

/-- How a request looks to the database. -/
def Request.session (settings : Settings) (library : Library) (request : Request) : Session Unit :=
  Service.session settings (request.service settings library)

section
variable {settings : Settings} {library : Library} {α β : Type}

theorem database_lawful (settings : Settings) : (database settings).Lawful where
  get_put _ _ := rfl
  put_get _ := rfl
  put_put _ _ _ := rfl
  reads {_} statement unwritten world := by
    cases statement with
    | execute change => cases unwritten
    | _ => rfl
  writes {_} statement change written world := by
    cases statement with
    | execute change =>
      cases written
      refine ⟨fun db applied => ?_, fun error refused => ?_⟩
      · simp only [database] at applied ⊢
        simp [Statement.handle, applied]
      · simp only [database] at refused ⊢
        simp [Statement.handle, refused]
    | _ => cases written

/-- Alone on the database, the session of a service does what the service does. -/
theorem run_session (body : Service α) (world : World) :
    (Service.session settings body).run (database settings).session world =
      body.run (Action.handle settings) world := by
  induction body generalizing world with
  | ret value => rfl
  | raise error => rfl
  | call action next ih =>
    cases action with
    | autocommit statement => exact ih _ _
    | atomic body =>
      rw [Service.session, Prog.run_attempt, Prog.run_transaction (database_lawful settings),
        Prog.run_call, Action.handle]
      rcases ran : body.run (Statement.handle settings) world with ⟨error | value, after⟩
      · simp only [show body.run (database settings).handle world = _ from ran]
        exact ih _ _
      · simp only [show body.run (database settings).handle world = _ from ran]
        exact ih _ _

theorem session_autocommit (body : Transaction α) :
    Service.session settings (Service.autocommit body) =
      body.hoist fun _ statement => .autocommit statement := by
  induction body with
  | ret value => rfl
  | raise error => rfl
  | call statement next ih => exact congrArg (Prog.call _) (funext fun answer => ih answer)

end

end HostingService
