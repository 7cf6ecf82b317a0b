import DeadCode.Framework.Basic

/-!
# Bundled framework rules

Rules for Laravel, Symfony and WordPress.
-/

namespace DeadCode.Framework
set_option autoImplicit false

/-- Rules for Laravel. -/
def laravel : Framework where
  name := "laravel"
  description := some ("Laravel framework support: service providers, controllers, commands, listeners, " ++
    "middleware, routes and config")
  priority := 100
  detectFiles := ["artisan"]
  detectPackages := ["laravel/framework", "laravel/lumen-framework"]
  detectPrefixes := ["illuminate/"]
  ignorePatterns := [
    "App\\Http\\Kernel", "App\\Console\\Kernel", "App\\Exceptions\\Handler", "App\\Providers\\*",
    "*ServiceProvider", "*Facade", "*::boot", "*::booted", "*::creating", "*::created", "*::updating",
    "*::updated", "*::deleting", "*::deleted", "*::saving", "*::saved", "*::restoring", "*::restored",
    "*::replicating", "*::handle", "*::scope*", "*::get*Attribute", "*::set*Attribute"]
  ignorePaths := [
    "storage/framework/**", "bootstrap/cache/**", "database/migrations/**", "database/seeders/**",
    "database/seeds/**", "database/factories/**"]
  entryPoints := ["routes/*.php", "config/*.php", "server.php"]
  directories := [
    "app/Http/Controllers", "app/Http/Middleware", "app/Console/Commands", "app/Events", "app/Listeners",
    "app/Jobs", "app/Policies"]
  baseClasses := [
    "Illuminate\\Support\\ServiceProvider", "Illuminate\\Console\\Command",
    "Illuminate\\Foundation\\Http\\FormRequest"]
  referenceFiles := ["config/*.php", "routes/*.php", "bootstrap/*.php"]

/-- Rules for Symfony. -/
def symfony : Framework where
  name := "symfony"
  description := some ("Symfony framework support: kernel, controllers, commands, subscribers and service " ++
    "configuration")
  priority := 90
  detectFiles := ["symfony.lock", "config/bundles.php", "bin/console"]
  detectPackages := ["symfony/framework-bundle", "symfony/http-kernel", "symfony/console"]
  ignorePatterns := [
    "App\\Kernel", "*\\Kernel", "*Controller", "*\\Controller\\*", "*Command", "*\\Command\\*",
    "*Subscriber", "*Listener", "*\\EventSubscriber\\*", "*\\EventListener\\*", "*Type", "*\\Form\\*",
    "*Extension", "*\\Twig\\*", "*Validator", "*\\Validator\\*", "*Voter", "*Authenticator",
    "*\\Security\\*", "*Repository", "*\\Repository\\*", "*\\Entity\\*", "*Handler", "*\\MessageHandler\\*",
    "*Normalizer", "*Fixture", "*\\DataFixtures\\*", "*\\Migrations\\*", "*::configure", "*::execute",
    "*::getSubscribedEvents", "*::buildForm", "*::configureOptions", "*::getFunctions", "*::getFilters",
    "*::validate", "*::supports", "*::voteOnAttribute"]
  ignorePaths := [
    "var/cache/**", "var/log/**", "config/secrets/**", "migrations/**", "src/Migrations/**",
    "tests/Fixtures/**"]
  entryPoints := ["src/Kernel.php", "config/*.php", "config/**/*.php"]
  directories := ["src/Controller", "src/Command", "src/EventSubscriber", "src/EventListener"]
  baseClasses := [
    "Symfony\\Bundle\\FrameworkBundle\\Controller\\AbstractController",
    "Symfony\\Component\\Console\\Command\\Command",
    "Symfony\\Component\\EventDispatcher\\EventSubscriberInterface",
    "Symfony\\Component\\HttpKernel\\Bundle\\Bundle"]
  referenceFiles := [
    "config/bundles.php", "config/services.yaml", "config/services.yml", "config/services.xml",
    "config/services/*.yaml", "config/routes.yaml", "config/routes.yml", "config/routes/*.yaml",
    "config/packages/*.yaml"]

/-- Rules for WordPress. -/
def wordpress : Framework where
  name := "wordpress"
  description := some "WordPress support: themes, plugins, must-use plugins, widgets and REST controllers"
  priority := 100
  detectFiles := ["wp-config.php", "wp-content"]
  detectPackages := ["johnpbloch/wordpress", "johnpbloch/wordpress-core", "roots/wordpress", "roots/wordpress-core-installer"]
  detectPrefixes := ["wpackagist-plugin/", "wpackagist-theme/"]
  ignorePatterns := [
    "*_Widget", "WP_Widget_*", "*Widget", "*::activate", "*::deactivate", "*::uninstall", "*_callback",
    "*_handler", "*_hook", "render_*", "handle_*", "*_page", "*_menu", "*_admin", "wp_ajax_*",
    "wp_ajax_nopriv_*", "*_rest_*", "*_endpoint", "*_block", "render_block_*", "*_customize_*",
    "*Customizer*"]
  ignorePaths := [
    "**/wp-admin/**", "**/wp-includes/**", "**/wp-content/cache/**", "**/wp-content/uploads/**",
    "**/wp-content/upgrade/**", "**/wp-content/languages/**", "**/wp-content/plugins/*/build/**",
    "**/wp-content/themes/*/build/**"]
  entryPoints := [
    "functions.php", "**/wp-content/themes/*/functions.php", "**/wp-content/plugins/*/*.php",
    "**/wp-content/mu-plugins/*.php", "**/wp-content/advanced-cache.php", "**/wp-content/object-cache.php",
    "**/wp-content/db.php", "uninstall.php"]
  baseClasses := ["WP_Widget", "WP_REST_Controller", "WP_List_Table", "WP_CLI_Command"]
  hooks := some {
    files := ["**/*.php"]
    functions := .obj [
      ("add_action", .int 2), ("add_filter", .int 2), ("add_shortcode", .int 2),
      ("register_activation_hook", .int 2), ("register_deactivation_hook", .int 2),
      ("register_uninstall_hook", .int 2), ("wp_register_sidebar_widget", .int 3),
      ("add_meta_box", .int 3), ("add_settings_section", .int 3), ("add_settings_field", .int 3),
      ("add_menu_page", .int 5), ("add_submenu_page", .int 6), ("add_options_page", .int 5),
      ("add_theme_page", .int 5), ("add_plugins_page", .int 5), ("add_users_page", .int 5),
      ("add_dashboard_page", .int 5), ("add_posts_page", .int 5), ("add_media_page", .int 5),
      ("add_links_page", .int 5), ("add_pages_page", .int 5), ("add_comments_page", .int 5),
      ("add_management_page", .int 5)]
    commands := ["WP_CLI::add_command"] }

/-- The rules that come with the library, in order of name. -/
def bundled : List Framework := [laravel, symfony, wordpress]

end DeadCode.Framework
