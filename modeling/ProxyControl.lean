import ProxyControl.Engine.Network
import ProxyControl.Main
import ProxyControl.Preference.Clients
import ProxyControl.Settings.Action
import ProxyControl.Proofs.Controller.CleanUp
import ProxyControl.Proofs.Controller.SettingsTasks
import ProxyControl.Proofs.Engine.FailedCalls
import ProxyControl.Proofs.Engine.QuietStops
import ProxyControl.Proofs.Engine.Signals
import ProxyControl.Proofs.PortSetter
import ProxyControl.Proofs.Preference.Activation
import ProxyControl.Proofs.Preference.Addresses
import ProxyControl.Proofs.Preference.Blurring
import ProxyControl.Proofs.Preference.Building
import ProxyControl.Proofs.Preference.Convergence
import ProxyControl.Proofs.Preference.Credentials
import ProxyControl.Proofs.Preference.Enumeration
import ProxyControl.Proofs.Preference.Journal
import ProxyControl.Proofs.Preference.Minutes
import ProxyControl.Proofs.Preference.NullFree
import ProxyControl.Proofs.Preference.Phases
import ProxyControl.Proofs.Preference.RunTrace
import ProxyControl.Proofs.Preference.UpToDate
import ProxyControl.Proofs.Settings.Listing
import ProxyControl.Proofs.Settings.StoredPaths
