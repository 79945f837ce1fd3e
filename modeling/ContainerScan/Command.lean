import ContainerScan.World

/-! Command templates of scanners, in which tokens give way to repository, branch and private key. -/

namespace ContainerScan.Command

/-- The token for the address of the repository. -/
def repositoryToken : String := "%GIT_REPO%"

/-- The token for the branch. -/
def branchToken : String := "%GIT_BRANCH%"

/-- The token for the private key, a bare word. -/
def keyToken : String := "GIT_PRIVATE_SSH_KEY"

/-- A template with repository and branch filled in; without any one of the three it is empty. -/
def fill (repository branch template : String) : String :=
  if repository = "" ∨ branch = "" ∨ template = "" then ""
  else Text.replace branchToken branch (Text.replace repositoryToken repository template)

/-- A command with the private key filled in. -/
def insertKey (key command : String) : String :=
  Text.replace keyToken key command

/-- A template with everything filled in. -/
def resolve (repository branch template key : String) : String :=
  let command := fill repository branch template
  if command = "" then "" else insertKey key command

/-- Whether a command asks for a key where there is none. -/
def lacksKey (key command : String) : Bool :=
  Text.contains command keyToken && key = ""

/-- Who writes about commands. -/
def logger : Logger := .named "scangate.container.command"

/-- A command with the private key filled in, and a warning where that is missing. -/
def insertKeyLogged (key command : String) : Step World String := do
  if lacksKey key command then
    World.log logger .warning "No private SSH key configured, substituting an empty value"
  return insertKey key command

/-- A command with the private key of the process, or another one, filled in. -/
def withKey (command : String) (key : Option String) : Step World String := do
  insertKeyLogged (key.getD (← get).settings.sshKey) command

/-- A template with everything filled in, and a warning where the private key is missing. -/
def resolveLogged (repository branch template : String) (key : Option String) :
    Step World String := do
  let command := fill repository branch template
  if command = "" then return "" else withKey command key

end ContainerScan.Command
