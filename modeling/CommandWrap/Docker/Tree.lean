import CommandWrap.Docker.Container
import CommandWrap.Docker.Image
import CommandWrap.Docker.Service
import CommandWrap.Docker.Management
import CommandWrap.Docker.Direct
import CommandWrap.Docker.DirectMore

/-!
# The packaged command tree of docker
-/
namespace CommandWrap.Docker

/-- The program `docker` with all its commands. -/
def tree : CommandTree :=
  .node
    { name := "docker"
      usage := "docker [OPTIONS] COMMAND [ARG...]"
      short := "A self-sufficient runtime for containers"
      flags := [
        ⟨"config", "string", "Location of client config files"⟩,
        ⟨"context", "string",
          "Name of the context to use to connect to the daemon (overrides DOCKER_HOST env var and default context set with \"docker context use\")"⟩,
        ⟨"debug", "bool", "Enable debug mode"⟩,
        ⟨"host", "list", "Daemon socket(s) to connect to"⟩,
        ⟨"log-level", "string",
          "Set the logging level (\"debug\"|\"info\"|\"warn\"|\"error\"|\"fatal\")"⟩,
        ⟨"tls", "bool", "Use TLS; implied by --tlsverify"⟩,
        ⟨"tlscacert", "string", "Trust certs signed only by this CA"⟩,
        ⟨"tlscert", "string", "Path to TLS certificate file"⟩,
        ⟨"tlskey", "string", "Path to TLS key file"⟩,
        ⟨"tlsverify", "bool", "Use TLS and verify the remote"⟩,
        ⟨"version", "bool", "Print version information and quit"⟩] }
    [attachCommand, buildCommand, builderCommand, checkpointCommand, commitCommand, configCommand,
      containerCommand, contextCommand, cpCommand, createCommand, diffCommand, eventsCommand,
      execCommand, exportCommand, historyCommand, imageCommand, imagesCommand, importCommand,
      infoCommand, inspectCommand, killCommand, loadCommand, loginCommand, logoutCommand,
      logsCommand, manifestCommand, networkCommand, nodeCommand, pauseCommand, pluginCommand,
      portCommand, psCommand, pullCommand, pushCommand, renameCommand, restartCommand, rmCommand,
      rmiCommand, runCommand, saveCommand, searchCommand, secretCommand, serviceCommand,
      stackCommand, startCommand, statsCommand, stopCommand, swarmCommand, systemCommand,
      tagCommand, topCommand, trustCommand, unpauseCommand, updateCommand, versionCommand,
      volumeCommand, waitCommand]

end CommandWrap.Docker
