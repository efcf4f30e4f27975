import IronicAnsible.Python.Value
import IronicAnsible.Python.Builtins
import IronicAnsible.Python.UrlParse
import IronicAnsible.Driver.Task
import IronicAnsible.Driver.Playbook
import IronicAnsible.Driver.Variables
import IronicAnsible.Driver.CleanSteps
import IronicAnsible.Driver.Retry
import IronicAnsible.Driver.AnsibleDeploy
import IronicAnsible.Proof.Frame
import IronicAnsible.Proof.Heartbeat
import IronicAnsible.Proof.RootDeviceHints
import IronicAnsible.Proof.PowerPoll
import IronicAnsible.Proof.Shutdown
import IronicAnsible.Proof.StateMachine
import IronicAnsible.Proof.DeployEvents
import IronicAnsible.Proof.CleanSteps
import IronicAnsible.Proof.Cleaning
import IronicAnsible.Proof.CleaningRun
import IronicAnsible.Proof.SyncDeploy
import IronicAnsible.Proof.DeployVariables
import IronicAnsible.Proof.NodeRecord
